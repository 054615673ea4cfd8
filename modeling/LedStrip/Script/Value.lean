import LedStrip.Json.Basic
import LedStrip.Text.Quoted
import LedStrip.Text.Utf8

/-!
# Values of a script

Integers have 64 bits; a larger unsigned number that came in from outside is kept as a `word`.  `display` is the text of a
value on its own and `inspect` its text inside an array or a map.  `ofJson` and `toJson?` move values in and out.
-/

namespace LedStrip
namespace Script

inductive Value (R : Type) where
  | unit
  | bool (b : Bool)
  | int (n : Int)
  /-- An unsigned number beyond the integers. -/
  | word (n : Nat)
  | float (x : R)
  | char (c : Char)
  | str (s : String)
  | array (items : List (Value R))
  | blob (bytes : Array UInt8)
  | map (members : List (String × Value R))
  | range (first last : Int) (closed : Bool)
  | closure
deriving Inhabited

/-- Least and greatest integer. -/
def minInt : Int := -(2 ^ 63)

def maxInt : Int := 2 ^ 63 - 1

def isInt (n : Int) : Bool := minInt ≤ n && n ≤ maxInt

namespace Value

variable {R : Type}

def typeName : Value R → String
  | unit => "()"
  | bool _ => "bool"
  | int _ => "i64"
  | word _ => "u64"
  | float _ => "f64"
  | char _ => "char"
  | str _ => "string"
  | array _ => "array"
  | blob _ => "blob"
  | map _ => "map"
  | range _ _ false => "range"
  | range _ _ true => "range="
  | closure => "Fn"

/-! ### Text -/

/-- A character between single quotes. -/
def quotedChar (c : Char) : String :=
  if c = '\'' then "'\\''" else if c = '"' then "'\"'" else "'" ++ Text.quotedChar c ++ "'"

/-- Bytes in hexadecimal, in groups of eight. -/
def blobText (bytes : Array UInt8) : String :=
  "[" ++ (bytes.toList.zipIdx.foldl (fun out e =>
    out ++ (if e.2 ≠ 0 && e.2 % 8 = 0 then " " else "") ++ Text.byteHex e.1) "") ++ "]"

mutual

/-- Text of a value inside another one. -/
def inspect [Scalar R] : Value R → String
  | unit => "()"
  | bool b => if b then "true" else "false"
  | int n => toString n
  | word n => toString n
  | float x => Scalar.text .nested x
  | char c => quotedChar c
  | str s => Text.quote s
  | array items => "[" ++ ", ".intercalate (inspectAll items) ++ "]"
  | blob bytes => blobText bytes
  | map members => "#\x7b" ++ ", ".intercalate (inspectMembers members) ++ "\x7d"
  | range a b closed => toString a ++ (if closed then "..=" else "..") ++ toString b
  | closure => "Fn"

def inspectAll [Scalar R] : List (Value R) → List String
  | [] => []
  | v :: rest => inspect v :: inspectAll rest

def inspectMembers [Scalar R] : List (String × Value R) → List String
  | [] => []
  | (k, v) :: rest => (Text.quote k ++ ": " ++ inspect v) :: inspectMembers rest

end

/-- Text of a value on its own. -/
def display [Scalar R] : Value R → String
  | unit => ""
  | float x => Scalar.text .script x
  | char c => String.ofList [c]
  | str s => s
  | v => inspect v

/-- Text that a value adds to a string: bytes count as what they spell. -/
def addedText [Scalar R] : Value R → String
  | blob bytes => Text.ofBytes bytes
  | v => v.display

/-! ### Equality -/

mutual

/-- Equality of values; an integer and a float are equal when they are the same number. -/
def same [Scalar R] : Value R → Value R → Bool
  | unit, unit => true
  | bool a, bool b => a == b
  | int a, int b => a == b
  | word a, word b => a == b
  | float a, float b => a == b
  | int a, float b => Scalar.ofInt a == b
  | float a, int b => a == Scalar.ofInt b
  | char a, char b => a == b
  | str a, str b => a == b
  | char a, str b => String.ofList [a] == b
  | str a, char b => a == String.ofList [b]
  | array a, array b => sameAll a b
  | blob a, blob b => a == b
  | map a, map b => sameMembers a b
  | range a b c, range a' b' c' => a == a' && b == b' && c == c'
  | _, _ => false

def sameAll [Scalar R] : List (Value R) → List (Value R) → Bool
  | [], [] => true
  | a :: as, b :: bs => same a b && sameAll as bs
  | _, _ => false

def sameMembers [Scalar R] : List (String × Value R) → List (String × Value R) → Bool
  | [], [] => true
  | (k, a) :: as, (l, b) :: bs => k == l && same a b && sameMembers as bs
  | _, _ => false

end

/-! ### As JSON -/

mutual

def ofJson : Json R → Value R
  | .null => unit
  | .bool b => bool b
  | .int n => if n ≤ maxInt then int n else word n.toNat
  | .float x => float x
  | .str s => str s
  | .arr items => array (ofJsonAll items)
  | .obj members => map (ofJsonMembers members)

def ofJsonAll : List (Json R) → List (Value R)
  | [] => []
  | v :: rest => ofJson v :: ofJsonAll rest

def ofJsonMembers : List (String × Json R) → List (String × Value R)
  | [] => []
  | (k, v) :: rest => (k, ofJson v) :: ofJsonMembers rest

end

mutual

/-- A value outside; bytes, ranges and closures have no place there. -/
def toJson? [Scalar R] : Value R → Option (Json R)
  | unit => some .null
  | bool b => some (.bool b)
  | int n => some (.int n)
  | word n => some (.int n)
  | float x => some (.ofScalar x)
  | char c => some (.str (String.ofList [c]))
  | str s => some (.str s)
  | array items => (toJsonAll? items).map .arr
  | blob _ => none
  | map members => (toJsonMembers? members).map .obj
  | range .. => none
  | closure => none

def toJsonAll? [Scalar R] : List (Value R) → Option (List (Json R))
  | [] => some []
  | v :: rest => do return (← toJson? v) :: (← toJsonAll? rest)

def toJsonMembers? [Scalar R] : List (String × Value R) → Option (List (String × Json R))
  | [] => some []
  | (k, v) :: rest => do return (k, ← toJson? v) :: (← toJsonMembers? rest)

end

end Value

/-! ### Faults -/

/-- Why a script stops. -/
inductive Fault (R : Type) where
  | thrown (v : Value R)
  | variableNotFound (name : String)
  | functionNotFound (name : String)
  | moduleNotFound (name : String)
  | unknownProperty (name : String)
  | noWritableProperty (name : String)
  | noIndexer
  | constantModified (name : String)
  | unboundThis
  | divisionByZero
  | remainderByZero
  /-- The exact result of an operation does not fit an integer. -/
  | overflow (operation : String)
  | outOfBounds (container : String) (index : Int)
  | wrongType
  | notIterable
  | callsTooDeep
  | tooManySteps

namespace Fault

variable {R : Type} [Scalar R]

/-- A thrown value that shows nothing is not mentioned. -/
def message : Fault R → String
  | thrown v => if v.display.isEmpty then "Runtime error" else s!"Runtime error: {v.display}"
  | variableNotFound _ => "Variable not found"
  | functionNotFound _ => "Function not found"
  | moduleNotFound _ => "Module not found"
  | unknownProperty _ => "Unknown property"
  | noWritableProperty _ => "No writable property"
  | noIndexer => "Indexer unavailable"
  | constantModified name => s!"Cannot modify constant {name}"
  | unboundThis => "'this' not bound"
  | divisionByZero => "Division by zero"
  | remainderByZero => "Modulo division by zero or overflow"
  | overflow operation => s!"{operation} overflow"
  | outOfBounds container index => s!"{container} index {index} out of bounds"
  | wrongType => "Data type incorrect"
  | notIterable => "For loop expects iterable type"
  | callsTooDeep => "Stack overflow"
  | tooManySteps => "Too many operations"

end Fault
end Script
end LedStrip
