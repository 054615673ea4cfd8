import LedStrip.Number.Rounding
import LedStrip.Text.Basic
import LedStrip.Toml.Basic

/-!
# Reading TOML

A number, a date or a word is read as one run of characters and then classified, since nothing that may follow such a value
can stand inside one.  Arrays and tables in braces nest at most `maxDepth` deep, and a dotted key is no longer than that.
-/

namespace LedStrip
namespace Toml

def maxDepth : Nat := 79

/-! ### Characters -/

def isBlank (c : Char) : Bool := c == ' ' || c == '\t'

/-- What may stand in a comment. -/
def isCommentChar (c : Char) : Bool := c == '\t' || (32 ≤ c.toNat && c.toNat != 127)

def isBareKeyChar (c : Char) : Bool := c.isAlphanum || c == '_' || c == '-'

def isDigitPart (c : Char) : Bool := c.isDigit || c == '_'

/-- What a number, a date or a word is made of. -/
def isPlainChar (c : Char) : Bool := isBareKeyChar c || c == '+' || c == '.' || c == ':'

def dropBlanks (cs : List Char) : List Char := cs.dropWhile isBlank

/-- The rest after a line ending. -/
def lineEnd? : List Char → Option (List Char)
  | '\n' :: rest => some rest
  | '\r' :: '\n' :: rest => some rest
  | _ => none

/-- The rest after blanks, a comment and the end of the line or the text. -/
def trailing? (cs : List Char) : Option (List Char) :=
  let rest :=
    match dropBlanks cs with
    | '#' :: rest => rest.dropWhile isCommentChar
    | rest => rest
  if rest.isEmpty then some [] else lineEnd? rest

/-- Skip blanks, comments and line endings; a comment has to end its line. -/
def dropSpace : Nat → List Char → Option (List Char)
  | 0, cs => some cs
  | fuel + 1, cs =>
    match dropBlanks cs with
    | '#' :: rest => (lineEnd? (rest.dropWhile isCommentChar)).bind (dropSpace fuel)
    | rest =>
      match lineEnd? rest with
      | some rest => dropSpace fuel rest
      | none => some rest

/-! ### Strings -/

/-- The character of a hexadecimal escape of `width` digits. -/
def hexEscape? (width : Nat) (cs : List Char) : Option (Char × List Char) := do
  let digits := cs.take width
  if digits.length < width then none
  let n ← Text.natOf? 16 digits
  if n < 0xD800 || (0xE000 ≤ n && n < 0x110000) then some (Char.ofNat n, cs.drop width) else none

/-- The character of an escape, after its backslash. -/
def escape? : List Char → Option (Char × List Char)
  | 'b' :: rest => some ('\x08', rest)
  | 't' :: rest => some ('\t', rest)
  | 'n' :: rest => some ('\n', rest)
  | 'f' :: rest => some ('\x0c', rest)
  | 'r' :: rest => some ('\r', rest)
  | '"' :: rest => some ('"', rest)
  | '\\' :: rest => some ('\\', rest)
  | 'u' :: rest => hexEscape? 4 rest
  | 'U' :: rest => hexEscape? 8 rest
  | _ => none

/-- The rest of a string in double quotes. -/
def basicTail? : Nat → List Char → String → Option (String × List Char)
  | 0, _, _ => none
  | fuel + 1, cs, out =>
    match cs with
    | '"' :: rest => some (out, rest)
    | '\\' :: rest =>
      match escape? rest with
      | some (c, rest) => basicTail? fuel rest (out.push c)
      | none => none
    | c :: rest => if isCommentChar c then basicTail? fuel rest (out.push c) else none
    | [] => none

/-- The rest of a string in single quotes. -/
def literalTail? (cs : List Char) : Option (String × List Char) :=
  let body := cs.takeWhile fun c => isCommentChar c && c != '\''
  match cs.drop body.length with
  | '\'' :: rest => some (String.ofList body, rest)
  | _ => none

/-- The end of a string of several lines: three quotes, up to two more before them. -/
def closing? (quote : Char) (cs : List Char) : Option (String × List Char) :=
  let count := (cs.takeWhile (· == quote)).length
  if 3 ≤ count then
    let extra := min (count - 3) 2
    some (String.ofList (List.replicate extra quote), cs.drop (extra + 3))
  else none

/-- The rest after a backslash at the end of a line: what follows is skipped up to the next visible character. -/
def continuation? (cs : List Char) : Option (List Char) :=
  (lineEnd? (dropBlanks cs)).map fun rest => rest.dropWhile fun c => isBlank c || c == '\n' || c == '\r'

/-- The rest of a string of several lines. -/
def multilineTail? (quote : Char) (escapes : Bool) : Nat → List Char → String → Option (String × List Char)
  | 0, _, _ => none
  | fuel + 1, cs, out =>
    match closing? quote cs with
    | some (extra, rest) => some (out ++ extra, rest)
    | none =>
      match lineEnd? cs with
      | some rest => multilineTail? quote escapes fuel rest (out.push '\n')
      | none =>
        match cs with
        | [] => none
        | c :: rest =>
          if escapes && c == '\\' then
            match continuation? rest with
            | some rest => multilineTail? quote escapes fuel rest out
            | none =>
              match escape? rest with
              | some (c, rest) => multilineTail? quote escapes fuel rest (out.push c)
              | none => none
          else if isCommentChar c then multilineTail? quote escapes fuel rest (out.push c)
          else none

/-- A string of several lines; a line ending right after the opening quotes does not count. -/
def multiline? (quote : Char) (escapes : Bool) (cs : List Char) : Option (String × List Char) :=
  multilineTail? quote escapes (cs.length + 1) ((lineEnd? cs).getD cs) ""

/-! ### Plain values -/

/-- Digits in a base, single underscores between them. -/
def digits? (base : Nat) (cs : List Char) : Option (List Char) :=
  let parts := Text.piecesOf '_' cs
  if parts.all fun p => !p.isEmpty && p.all fun c => (Text.digitValue? base c).isSome then
    some parts.flatten
  else none

/-- A sign and the rest. -/
def signed : List Char → Bool × List Char
  | '-' :: rest => (true, rest)
  | '+' :: rest => (false, rest)
  | cs => (false, cs)

/-- Digits of an integer: no zero at the start of several. -/
def wholeDigits? (cs : List Char) : Option (List Char) :=
  (digits? 10 cs).filter fun ds => ds.length = 1 || ds.head? != some '0'

/-- An integer of 64 bits. -/
def integer? (cs : List Char) : Option Int :=
  let based (base : Nat) (cs : List Char) : Option Int :=
    ((digits? base cs).bind (Text.natOf? base)).map Int.ofNat
  let n : Option Int :=
    match cs with
    | '0' :: 'x' :: rest => based 16 rest
    | '0' :: 'o' :: rest => based 8 rest
    | '0' :: 'b' :: rest => based 2 rest
    | _ =>
      let (negative, rest) := signed cs
      ((wholeDigits? rest).bind (Text.natOf? 10)).map fun n => if negative then -(n : Int) else n
  n.filter fun n => -(2 ^ 63) ≤ n && n < 2 ^ 63

/-- Value of an exponent, with an optional sign. -/
def exponent? (cs : List Char) : Option Int :=
  let (negative, rest) := signed cs
  ((digits? 10 rest).bind (Text.natOf? 10)).map fun n => if negative then -(n : Int) else n

/-- The least magnitude that is read as infinite. -/
def floatLimit : Nat := 2 ^ 1024 - 2 ^ 970

/-- Whether `n · 10 ^ e` stays below the limit of floating-point numbers, which has 309 digits. -/
def isBelowLimit (n : Nat) (e : Int) : Bool :=
  let digits : Int := (toString n).length + e
  n = 0 || digits < 309 ||
    (digits = 309 && if e < 0 then n < floatLimit * 10 ^ (-e).toNat else n * 10 ^ e.toNat < floatLimit)

/-- Whether a number with a fraction or an exponent.  One too large is refused, unless it is negative. -/
def isFloat (cs : List Char) : Bool :=
  let (negative, rest) := signed cs
  let whole := rest.takeWhile isDigitPart
  let tail := rest.dropWhile isDigitPart
  let (fraction, tail) :=
    match tail with
    | '.' :: more => (some (more.takeWhile isDigitPart), more.dropWhile isDigitPart)
    | _ => (none, tail)
  let exponent : Option (Option Int) :=
    match tail with
    | [] => some none
    | c :: more => if c == 'e' || c == 'E' then (exponent? more).map some else none
  rest == "inf".toList || rest == "nan".toList ||
    (match wholeDigits? whole, fraction.map (digits? 10), exponent with
      | some _, none, some none => false
      | some ds, none, some (some e) => negative || isBelowLimit ((Text.natOf? 10 ds).getD 0) e
      | some ds, some (some fs), some e =>
        negative || isBelowLimit ((Text.natOf? 10 (ds ++ fs)).getD 0) (e.getD 0 - fs.length)
      | _, _, _ => false)

/-- A number of exactly so many digits. -/
def fixedNat? (width : Nat) (cs : List Char) : Option Nat :=
  if cs.length = width then Text.natOf? 10 cs else none

def daysIn (year month : Nat) : Nat :=
  if month = 2 then if year % 4 = 0 ∧ (year % 100 ≠ 0 ∨ year % 400 = 0) then 29 else 28
  else if month ∈ [4, 6, 9, 11] then 30 else 31

def isDate (cs : List Char) : Bool :=
  match Text.piecesOf '-' cs with
  | [y, m, d] =>
    match fixedNat? 4 y, fixedNat? 2 m, fixedNat? 2 d with
    | some y, some m, some d => 1 ≤ m && m ≤ 12 && 1 ≤ d && d ≤ daysIn y m
    | _, _, _ => false
  | _ => false

/-- Two digits, at most `max`. -/
def isUpTo (max : Nat) (cs : List Char) : Bool :=
  match fixedNat? 2 cs with
  | some n => n ≤ max
  | none => false

/-- Whether a time of day. -/
def isTime (cs : List Char) : Bool :=
  match Text.piecesOf ':' cs with
  | [h, m, s] =>
    isUpTo 23 h && isUpTo 59 m &&
      (match Text.piecesOf '.' s with
        | [s] => isUpTo 60 s
        | [s, f] => isUpTo 60 s && !f.isEmpty && f.all Char.isDigit
        | _ => false)
  | _ => false

/-- Whether hours and minutes of a distance to universal time. -/
def isOffset (cs : List Char) : Bool :=
  match Text.piecesOf ':' cs with
  | [h, m] => isUpTo 23 h && isUpTo 59 m
  | _ => false

/-- Whether a time of day, with or without a distance to universal time. -/
def isOffsetTime (cs : List Char) : Bool :=
  let time := cs.takeWhile fun c => c.isDigit || c == ':' || c == '.'
  isTime time &&
    (match cs.drop time.length with
      | [] => true
      | ['Z'] => true
      | ['z'] => true
      | c :: rest => (c == '+' || c == '-') && isOffset rest)

/-- Whether a date, a time or both, with `T` between them. -/
def isMoment (cs : List Char) : Bool :=
  isTime cs || isDate (cs.take 10) &&
    (match cs.drop 10 with
      | [] => true
      | c :: rest => (c == 'T' || c == 't') && isOffsetTime rest)

/-- The run of characters of a plain value; a date takes a time after one blank. -/
def plainRun (cs : List Char) : List Char × List Char :=
  let run := cs.takeWhile isPlainChar
  match isDate run, cs.drop run.length with
  | true, ' ' :: c :: rest =>
    if c.isDigit then
      let time := (c :: rest).takeWhile isPlainChar
      (run ++ 'T' :: time, (c :: rest).drop time.length)
    else (run, cs.drop run.length)
  | _, rest => (run, rest)

/-- What a run of characters stands for. -/
def classify? (run : List Char) : Option Toml :=
  if run == "true".toList then some (bool true)
  else if run == "false".toList then some (bool false)
  else
    match integer? run with
    | some n => some (int n)
    | none =>
      if isFloat run then some (float (String.ofList run))
      else if isMoment run then some (moment (String.ofList run))
      else none

/-! ### Keys -/

/-- One part of a key. -/
def keyPart? (cs : List Char) : Option (String × List Char) :=
  match cs with
  | '"' :: rest => basicTail? (rest.length + 1) rest ""
  | '\'' :: rest => literalTail? rest
  | _ =>
    let part := cs.takeWhile isBareKeyChar
    if part.isEmpty then none else some (String.ofList part, cs.drop part.length)

/-- Parts with dots between them, blanks around each. -/
def keyParts? : Nat → List Char → Option (List String × List Char)
  | 0, _ => none
  | depth + 1, cs => do
    let (part, rest) ← keyPart? (dropBlanks cs)
    match dropBlanks rest with
    | '.' :: rest =>
      let (parts, rest) ← keyParts? depth rest
      return (part :: parts, rest)
    | rest => return ([part], rest)

def key? (cs : List Char) : Option (KeyPath × List Char) := do
  let (parts, rest) ← keyParts? maxDepth cs
  return (⟨parts.dropLast, parts.getLast?.getD ""⟩, rest)

/-! ### Values -/

mutual

/-- A value inside `depth` brackets and braces. -/
def value? : Nat → Nat → List Char → Option (Toml × List Char)
  | 0, _, _ => none
  | fuel + 1, depth, cs =>
    match cs with
    | '"' :: '"' :: '"' :: rest => (multiline? '"' true rest).map fun (s, rest) => (str s, rest)
    | '"' :: rest => (basicTail? (rest.length + 1) rest "").map fun (s, rest) => (str s, rest)
    | '\'' :: '\'' :: '\'' :: rest => (multiline? '\'' false rest).map fun (s, rest) => (str s, rest)
    | '\'' :: rest => (literalTail? rest).map fun (s, rest) => (str s, rest)
    | '[' :: rest => if depth < maxDepth then items? fuel (depth + 1) rest [] else none
    | '\x7b' :: rest =>
      if depth < maxDepth then
        match dropBlanks rest with
        | '\x7d' :: rest => some (table .braces [], rest)
        | rest => members? fuel (depth + 1) rest []
      else none
    | _ =>
      let (run, rest) := plainRun cs
      (classify? run).map fun v => (v, rest)

/-- The rest of an array. -/
def items? : Nat → Nat → List Char → List Toml → Option (Toml × List Char)
  | 0, _, _, _ => none
  | fuel + 1, depth, cs, done => do
    match ← dropSpace (cs.length + 1) cs with
    | ']' :: rest => return (array done.reverse, rest)
    | cs =>
      let (v, rest) ← value? fuel depth cs
      match ← dropSpace (rest.length + 1) rest with
      | ',' :: rest => items? fuel depth rest (v :: done)
      | ']' :: rest => return (array (v :: done).reverse, rest)
      | _ => none

/-- The rest of a table in braces. -/
def members? : Nat → Nat → List Char → Entries Toml → Option (Toml × List Char)
  | 0, _, _, _ => none
  | fuel + 1, depth, cs, done => do
    let (key, rest) ← key? cs
    match rest with
    | '=' :: rest =>
      let (v, rest) ← value? fuel depth (dropBlanks rest)
      let done ← putDotted key.last v key.init done
      match dropBlanks rest with
      | ',' :: rest => members? fuel depth rest done
      | '\x7d' :: rest => return (table .braces done, rest)
      | _ => none
    | _ => none

end

/-! ### Lines -/

/-- One line that is neither blank nor a comment, and what follows it. -/
def line? (cs : List Char) : Option (Line × List Char) :=
  match cs with
  | '[' :: '[' :: rest => do
    let (key, rest) ← key? rest
    match rest with
    | ']' :: ']' :: rest => return (.element key, ← trailing? rest)
    | _ => none
  | '[' :: rest => do
    let (key, rest) ← key? rest
    match rest with
    | ']' :: rest => return (.header key, ← trailing? rest)
    | _ => none
  | _ => do
    let (key, rest) ← key? cs
    match rest with
    | '=' :: rest =>
      let (v, rest) ← value? (2 * rest.length + 2) 0 (dropBlanks rest)
      return (.entry key v, ← trailing? rest)
    | _ => none

/-- The rest of a document. -/
def document? : Nat → List Char → Document → Option Document
  | 0, _, d => some d
  | fuel + 1, cs, d =>
    match dropBlanks cs with
    | [] => some d
    | rest =>
      match trailing? rest with
      | some rest => document? fuel rest d
      | none => do
        let (line, rest) ← line? rest
        document? fuel rest (← d.add line)

/-- Read a document; a byte order mark before it does not count. -/
def parse? (text : String) : Option (Entries Toml) :=
  let cs :=
    match text.toList with
    | '\ufeff' :: rest => rest
    | cs => cs
  (document? (cs.length + 1) cs {}).map (·.root)

end Toml
end LedStrip
