/-!
# Text

Cutting a string at a separator, joining pieces, and the few character classes that formats here share.
-/

namespace LedStrip

/-- A place in a text. -/
structure Position where
  line : Nat
  column : Nat
deriving DecidableEq, Repr, Inhabited

namespace Text

/-- Cut a list of characters at every separator; there is always one piece more than separators. -/
def piecesOf (sep : Char) : List Char → List (List Char)
  | [] => [[]]
  | c :: rest =>
    if c = sep then [] :: piecesOf sep rest
    else
      match piecesOf sep rest with
      | [] => [[c]]
      | p :: ps => (c :: p) :: ps

def pieces (sep : Char) (s : String) : List String := (piecesOf sep s.toList).map String.ofList

def startsWith (start s : String) : Bool := start.toList.isPrefixOf s.toList

def endsWith (ending s : String) : Bool := ending.toList.isSuffixOf s.toList

/-- The text after a given start. -/
def dropStart? (start s : String) : Option String :=
  if startsWith start s then some (String.ofList (s.toList.drop start.length)) else none

/-- A text from its lines, each of which ends. -/
def ofLines (lines : List String) : String := String.join (lines.map (· ++ "\n"))

def spaces (n : Nat) : String := String.ofList (List.replicate n ' ')

/-- Lower-case hexadecimal digit. -/
def hexDigit (n : Nat) : Char := if n < 10 then Char.ofNat (48 + n) else Char.ofNat (87 + n)

/-- Hexadecimal text of at least `width` digits. -/
def hex (width n : Nat) : String :=
  let ds := Nat.toDigits 16 n
  String.ofList (List.replicate (width - ds.length) '0' ++ ds)

def byteHex (b : UInt8) : String :=
  String.ofList [hexDigit (b.toNat / 16), hexDigit (b.toNat % 16)]

/-- Value of a decimal, or hexadecimal, digit. -/
def digitValue? (base : Nat) (c : Char) : Option Nat :=
  let v? :=
    if '0' ≤ c ∧ c ≤ '9' then some (c.toNat - 48)
    else if 'a' ≤ c ∧ c ≤ 'f' then some (c.toNat - 87)
    else if 'A' ≤ c ∧ c ≤ 'F' then some (c.toNat - 55)
    else none
  v?.filter (· < base)

/-- A run of digits of a base as a number; no digits, or another character, gives nothing. -/
def natOf? (base : Nat) (cs : List Char) : Option Nat :=
  match cs with
  | [] => none
  | _ => cs.foldl (fun n? c => n?.bind fun n => (digitValue? base c).map (n * base + ·)) (some 0)

theorem piecesOf_ne_nil (sep : Char) (cs : List Char) : piecesOf sep cs ≠ [] := by
  induction cs with
  | nil => simp [piecesOf]
  | cons c rest _ =>
    by_cases h : c = sep
    · simp [piecesOf, h]
    · cases hp : piecesOf sep rest <;> simp [piecesOf, h, hp]

end Text
end LedStrip
