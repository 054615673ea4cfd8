import LedStrip.Json.Basic

/-!
# Reading JSON

`parse` reads a whole document or says what is wrong with it and where.  Members stay in the order of the text, so that a
later step can still see a key that is written twice.  Nesting is limited to `maxDepth` levels.  A number without fraction
and exponent that fits 64 bits is an integer, and every other number is a float; `-0` alone is one too.

A float keeps at most 64 bits of its digits, and the digits kept are multiplied or divided by a power of ten in scalar
arithmetic; a result that is not finite is refused.
-/

namespace LedStrip
namespace Json

/-- Most levels of arrays and objects inside each other. -/
def maxDepth : Nat := 127

/-! ### Faults -/

inductive SyntaxProblem where
  | endOfArray
  | endOfObject
  | endOfString
  | endOfValue
  | noColon
  | noItemEnd
  | noMemberEnd
  | badWord
  | noValue
  | badEscape
  | badNumber
  | outOfRange
  | controlCharacter
  | keyNotString
  | loneSurrogate
  | openSurrogate
  | trailingComma
  | trailingText
  | tooDeep
deriving DecidableEq, Repr, Inhabited

namespace SyntaxProblem

def message : SyntaxProblem → String
  | endOfArray => "EOF while parsing a list"
  | endOfObject => "EOF while parsing an object"
  | endOfString => "EOF while parsing a string"
  | endOfValue => "EOF while parsing a value"
  | noColon => "expected `:`"
  | noItemEnd => "expected `,` or `]`"
  | noMemberEnd => "expected `,` or `\x7d`"
  | badWord => "expected ident"
  | noValue => "expected value"
  | badEscape => "invalid escape"
  | badNumber => "invalid number"
  | outOfRange => "number out of range"
  | controlCharacter => "control character (\\u0000-\\u001F) found while parsing a string"
  | keyNotString => "key must be a string"
  | loneSurrogate => "lone leading surrogate in hex escape"
  | openSurrogate => "unexpected end of hex escape"
  | trailingComma => "trailing comma"
  | trailingText => "trailing characters"
  | tooDeep => "recursion limit exceeded"

end SyntaxProblem

/-- A place in a text, told by the text from there on. -/
structure Mark where
  /-- Number of characters from the place on. -/
  left : Nat
  /-- Whether the next character is meant and not the one before. -/
  ahead : Bool
deriving DecidableEq, Repr, Inhabited

namespace Mark

/-- Line and column of a mark: columns count bytes, and a line ending begins the column zero of the next line. -/
def position (text : String) (m : Mark) : Position :=
  let cs := text.toList
  let step (p : Position) (c : Char) : Position :=
    if c = '\n' then ⟨p.line + 1, 0⟩ else ⟨p.line, p.column + c.utf8Size⟩
  let p := (cs.take (cs.length - m.left)).foldl step ⟨1, 0⟩
  match m.ahead, (cs.drop (cs.length - m.left)).head? with
  | true, some c => if c = '\n' then ⟨p.line + 1, 0⟩ else ⟨p.line, p.column + 1⟩
  | _, _ => p

end Mark

structure SyntaxFault where
  problem : SyntaxProblem
  mark : Mark
deriving DecidableEq, Repr, Inhabited

/-- What a reader gives: a value and the text after it, or a fault. -/
abbrev Read (α : Type) := Except SyntaxFault (α × List Char)

/-- Fail after the characters that are read, with `cs` left. -/
def stop {α : Type} (problem : SyntaxProblem) (cs : List Char) : Read α := .error ⟨problem, ⟨cs.length, false⟩⟩

/-- Fail at the next character. -/
def stopAt {α : Type} (problem : SyntaxProblem) (cs : List Char) : Read α := .error ⟨problem, ⟨cs.length, true⟩⟩

/-- Fail at the next character, or otherwise at the end of the text. -/
def stopAtOr {α : Type} (problem atEnd : SyntaxProblem) (cs : List Char) : Read α :=
  stopAt (if cs.isEmpty then atEnd else problem) cs

variable {R : Type} [Scalar R]

/-! ### Numbers -/

/-- The digits of a number on their way to a scalar: a significand below `2 ^ 64` and a power of ten. -/
structure Significand where
  digits : Nat
  exponent : Int
deriving Repr

/-- Append one more digit, unless the significand would leave 64 bits. -/
def pushDigit? (n d : Nat) : Option Nat := if n * 10 + d < 2 ^ 64 then some (n * 10 + d) else none

/-- Digits before the point, with the count of those that no longer fit. -/
def wholeDigits : List Char → Nat → Nat × Nat × List Char
  | [], n => (n, 0, [])
  | c :: rest, n =>
    match Text.digitValue? 10 c with
    | none => (n, 0, c :: rest)
    | some d =>
      match pushDigit? n d with
      | some n' => wholeDigits rest n'
      | none =>
        let more := rest.takeWhile Char.isDigit
        (n, more.length + 1, rest.drop more.length)

/-- Digits after the point, with the count of those kept; once one does not fit the others are dropped. -/
def fractionDigits : List Char → Nat → Nat × Nat × List Char
  | [], n => (n, 0, [])
  | c :: rest, n =>
    match Text.digitValue? 10 c with
    | none => (n, 0, c :: rest)
    | some d =>
      match pushDigit? n d with
      | some n' =>
        let (m, kept, left) := fractionDigits rest n'
        (m, kept + 1, left)
      | none => (n, 0, rest.dropWhile Char.isDigit)

/-- Divide by `1e308` until the exponent is in the table of powers, at most `fuel` times. -/
def scaleDown : Nat → R → Int → R × Int
  | 0, x, e => (x, e)
  | fuel + 1, x, e =>
    if e < -308 then
      if x == Scalar.ofInt 0 then (x, 0)
      else scaleDown fuel (x / Scalar.ofRat (10 ^ 308)) (e + 308)
    else (x, e)

/-- The scalar of a significand, if it is finite. -/
def Significand.scalar? (s : Significand) (negative : Bool) : Option R :=
  let x : R := Scalar.ofNat s.digits
  let value? : Option R :=
    if 308 < s.exponent then if x == Scalar.ofInt 0 then some x else none
    else if 0 ≤ s.exponent then some (x * Scalar.ofRat ((10 : Rat) ^ s.exponent.toNat))
    else
      let (y, e) := scaleDown 8 x s.exponent
      if e < -308 then some (Scalar.ofInt 0)
      else some (y / Scalar.ofRat ((10 : Rat) ^ (-e).toNat))
  (value?.filter Scalar.isFinite).map fun v => if negative then -v else v

/-- An exponent with its optional sign; more digits than 31 bits hold are kept as the largest exponent. -/
def readExponent (cs : List Char) : Read Int :=
  let (down, cs) :=
    match cs with
    | '+' :: r => (false, r)
    | '-' :: r => (true, r)
    | r => (false, r)
  let ds := cs.takeWhile Char.isDigit
  match Text.natOf? 10 ds with
  | none => stopAtOr .badNumber .endOfValue cs
  | some n =>
    let n : Int := min n (2 ^ 31 - 1)
    .ok (if down then -n else n, cs.drop ds.length)

/-- The rest of a float after its whole digits. -/
def readFloatTail (negative : Bool) (n dropped : Nat) (cs : List Char) :
    Except SyntaxFault (R × List Char) := do
  let ((n, e), cs) ← show Read (Nat × Int) from
    match cs with
    | '.' :: r =>
      if (r.head?.map Char.isDigit).getD false then
        let (n, kept, r) := fractionDigits r n
        .ok ((n, (dropped : Int) - kept), r)
      else stopAtOr .badNumber .endOfValue r
    | r => .ok ((n, (dropped : Int)), r)
  let (e, cs) ← show Read Int from
    match cs with
    | 'e' :: r => (readExponent r).map fun (x, r) => (e + x, r)
    | 'E' :: r => (readExponent r).map fun (x, r) => (e + x, r)
    | r => .ok (e, r)
  match Significand.scalar? ⟨n, e⟩ negative with
  | some x => .ok (x, cs)
  | none => stop .outOfRange cs

/-- Digits of a number after its sign, with the count of those that no longer fit. -/
def readWhole (cs : List Char) : Read (Nat × Nat) :=
  match cs with
  | '0' :: r => if (r.head?.map Char.isDigit).getD false then stopAt .badNumber r else .ok ((0, 0), r)
  | c :: r =>
    if c.isDigit then
      let (n, dropped, rest) := wholeDigits (c :: r) 0
      .ok ((n, dropped), rest)
    else stopAt .badNumber cs
  | [] => stop .endOfValue []

/-- A number after its sign. -/
def readNumber (negative : Bool) (cs : List Char) : Except SyntaxFault (Json R × List Char) := do
  let ((n, dropped), rest) ← readWhole cs
  let isFloat := dropped != 0 || rest.head? == some '.' || rest.head? == some 'e' || rest.head? == some 'E'
  if isFloat then
    let (x, rest) ← readFloatTail negative n dropped rest
    return (float x, rest)
  else if !negative then return (int n, rest)
  else if n = 0 || 2 ^ 63 < n then return (float (-(Scalar.ofNat n : R)), rest)
  else return (int (-(n : Int)), rest)

/-! ### Strings -/

/-- Four hexadecimal digits. -/
def readHex (cs : List Char) : Read Nat :=
  if cs.length < 4 then stop .endOfString []
  else
    match Text.natOf? 16 (cs.take 4) with
    | some n => .ok (n, cs.drop 4)
    | none => stop .badEscape (cs.drop 4)

/-- A `\u` escape, with its second half where it is the first half of a pair. -/
def readUnicodeEscape (cs : List Char) : Except SyntaxFault (Char × List Char) := do
  let (hi, rest) ← readHex cs
  if 0xDC00 ≤ hi && hi ≤ 0xDFFF then stop .loneSurrogate rest
  else if 0xD800 ≤ hi && hi ≤ 0xDBFF then
    match rest with
    | '\\' :: 'u' :: rest =>
      let (lo, rest) ← readHex rest
      if 0xDC00 ≤ lo && lo ≤ 0xDFFF then
        .ok (Char.ofNat (0x10000 + (hi - 0xD800) * 0x400 + (lo - 0xDC00)), rest)
      else stop .loneSurrogate rest
    | '\\' :: rest => stopAtOr .openSurrogate .endOfString rest
    | rest => stopAtOr .openSurrogate .endOfString rest
  else .ok (Char.ofNat hi, rest)

def simpleEscape? : Char → Option Char
  | '"' => some '"'
  | '\\' => some '\\'
  | '/' => some '/'
  | 'b' => some '\x08'
  | 'f' => some '\x0c'
  | 'n' => some '\n'
  | 'r' => some '\r'
  | 't' => some '\t'
  | _ => none

/-- A string after its opening quote, at most `fuel` characters long. -/
def readStringTail : Nat → List Char → String → Read String
  | 0, cs, _ => stop .endOfString cs
  | fuel + 1, cs, out =>
    match cs with
    | [] => stop .endOfString []
    | '"' :: rest => .ok (out, rest)
    | '\\' :: 'u' :: rest =>
      match readUnicodeEscape rest with
      | .ok (c, rest) => readStringTail fuel rest (out.push c)
      | .error f => .error f
    | '\\' :: rest =>
      match rest with
      | [] => stop .endOfString []
      | e :: more =>
        match simpleEscape? e with
        | some c => readStringTail fuel more (out.push c)
        | none => stopAt .badEscape rest
    | c :: rest => if c.toNat < 32 then stopAt .controlCharacter cs else readStringTail fuel rest (out.push c)

def readString (cs : List Char) : Read String := readStringTail (cs.length + 1) cs ""

/-! ### Values -/

def isBlank (c : Char) : Bool := c == ' ' || c == '\n' || c == '\t' || c == '\r'

def skipBlanks (cs : List Char) : List Char := cs.dropWhile isBlank

/-- The rest of a word that was begun. -/
def readWord (v : Json R) : List Char → List Char → Read (Json R)
  | [], cs => .ok (v, cs)
  | _ :: _, [] => stop .endOfValue []
  | w :: ws, c :: cs => if w = c then readWord v ws cs else stopAt .badWord (c :: cs)

mutual

/-- A value at the start of the text; `depth` levels may still be opened. -/
def readValue : Nat → Nat → List Char → Read (Json R)
  | 0, _, cs => stop .endOfValue cs
  | fuel + 1, depth, cs =>
    match skipBlanks cs with
    | [] => stop .endOfValue []
    | '"' :: rest => (readString rest).map fun (s, rest) => (str s, rest)
    | '[' :: rest =>
      if depth = 0 then stopAt .tooDeep ('[' :: rest)
      else
        match skipBlanks rest with
        | ']' :: rest => .ok (arr [], rest)
        | [] => stop .endOfArray []
        | rest => (readItems fuel (depth - 1) rest []).map fun (vs, rest) => (arr vs, rest)
    | '\x7b' :: rest =>
      if depth = 0 then stopAt .tooDeep ('\x7b' :: rest)
      else
        match skipBlanks rest with
        | '\x7d' :: rest => .ok (obj [], rest)
        | [] => stop .endOfObject []
        | rest => (readMembers fuel (depth - 1) rest []).map fun (ms, rest) => (obj ms, rest)
    | 't' :: rest => readWord (bool true) "rue".toList rest
    | 'f' :: rest => readWord (bool false) "alse".toList rest
    | 'n' :: rest => readWord null "ull".toList rest
    | '-' :: rest => readNumber true rest
    | c :: rest => if c.isDigit then readNumber false (c :: rest) else stopAt .noValue (c :: rest)

/-- The items of an array up to its closing bracket. -/
def readItems : Nat → Nat → List Char → List (Json R) → Read (List (Json R))
  | 0, _, cs, _ => stop .endOfArray cs
  | fuel + 1, depth, cs, done =>
    match readValue fuel depth cs with
    | .error f => .error f
    | .ok (v, rest) =>
      match skipBlanks rest with
      | ',' :: rest =>
        match skipBlanks rest with
        | ']' :: rest => stopAt .trailingComma (']' :: rest)
        | rest => readItems fuel depth rest (v :: done)
      | ']' :: rest => .ok ((v :: done).reverse, rest)
      | rest => stopAtOr .noItemEnd .endOfArray rest

/-- The members of an object up to its closing brace. -/
def readMembers : Nat → Nat → List Char → List (String × Json R) → Read (List (String × Json R))
  | 0, _, cs, _ => stop .endOfObject cs
  | fuel + 1, depth, cs, done =>
    match cs with
    | '"' :: rest =>
      match readString rest with
      | .error f => .error f
      | .ok (k, rest) =>
        match skipBlanks rest with
        | ':' :: rest =>
          match readValue fuel depth rest with
          | .error f => .error f
          | .ok (v, rest) =>
            match skipBlanks rest with
            | ',' :: rest =>
              match skipBlanks rest with
              | '\x7d' :: rest => stopAt .trailingComma ('\x7d' :: rest)
              | rest => readMembers fuel depth rest ((k, v) :: done)
            | '\x7d' :: rest => .ok (((k, v) :: done).reverse, rest)
            | rest => stopAtOr .noMemberEnd .endOfObject rest
        | rest => stopAtOr .noColon .endOfObject rest
    | cs => stopAtOr .keyNotString .endOfValue cs

end

/-- A whole document, members as written. -/
def parse (text : String) : Except SyntaxFault (Json R) :=
  let cs := text.toList
  match readValue (cs.length + 1) maxDepth cs with
  | .error f => .error f
  | .ok (v, rest) =>
    match skipBlanks rest with
    | [] => .ok v
    | rest => (stopAt .trailingText rest).map (·.1)

/-! ### Places -/

/-- From a value on, the text from one of its items on, or from the colon of one of its members on. -/
def childText? (R : Type) [Scalar R] (child : Nat) (cs : List Char) : Option (List Char) :=
  let next (isMember : Bool) (cs : List Char) : Option (List Char) :=
    if isMember then
      match skipBlanks cs with
      | '"' :: rest => (readString rest).toOption.map fun (_, rest) => skipBlanks rest
      | _ => none
    else some (skipBlanks cs)
  let skip (isMember : Bool) (cs : List Char) : Option (List Char) := do
    let cs ← next isMember cs
    let (_, rest) ← (readValue (R := R) (cs.length + 1) maxDepth (if isMember then cs.drop 1 else cs)).toOption
    match skipBlanks rest with
    | ',' :: rest => some rest
    | _ => none
  match skipBlanks cs with
  | '[' :: rest => ((List.range child).foldlM (fun cs _ => skip false cs) rest).bind (next false)
  | '\x7b' :: rest => ((List.range child).foldlM (fun cs _ => skip true cs) rest).bind (next true)
  | _ => none

/-- Start of the value that a text begins with, after the colon of a member. -/
def valueText (cs : List Char) : List Char :=
  match cs with
  | ':' :: rest => skipBlanks rest
  | cs => skipBlanks cs

/-- The text after the value that it begins with. -/
def afterValue (R : Type) [Scalar R] (cs : List Char) : List Char :=
  match readValue (R := R) (cs.length + 1) maxDepth (valueText cs) with
  | .ok (_, rest) => rest
  | .error _ => cs

end Json
end LedStrip
