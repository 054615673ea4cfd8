import LedStrip.Script.Syntax
import LedStrip.Script.Value

/-!
# Operators and library functions

What operators and built-in functions do with values.  Integer arithmetic is exact or fails; a mixed pair of numbers is
computed with scalars.  Values of different types compare as unequal and in no order.
-/

namespace LedStrip
namespace Script

variable {R : Type} [Scalar R]

/-! ### Arithmetic -/

/-- An exact result that has to fit an integer. -/
def fitting (operation : String) (n : Int) : Except (Fault R) (Value R) :=
  if isInt n then .ok (.int n) else .error (.overflow operation)

def intArithmetic (op : BinaryOp) (a b : Int) : Option (Except (Fault R) (Value R)) :=
  match op with
  | .add => some (fitting "Addition" (a + b))
  | .sub => some (fitting "Subtraction" (a - b))
  | .mul => some (fitting "Multiplication" (a * b))
  | .div => some (if b = 0 then .error .divisionByZero else fitting "Division" (a.tdiv b))
  | .rem =>
    some (if b = 0 || (a = minInt && b = -1) then .error .remainderByZero else .ok (.int (a.tmod b)))
  | .range => some (.ok (.range a b false))
  | .closedRange => some (.ok (.range a b true))
  | _ => none

def floatArithmetic (op : BinaryOp) (x y : R) : Option (Except (Fault R) (Value R)) :=
  match op with
  | .add => some (.ok (.float (x + y)))
  | .sub => some (.ok (.float (x - y)))
  | .mul => some (.ok (.float (x * y)))
  | .div => some (.ok (.float (x / y)))
  | .rem => some (.ok (.float (Scalar.rem x y)))
  | _ => none

/-! ### Order -/

/-- A comparison of two things of one ordered type. -/
def ordering {α : Type} [LT α] [DecidableLT α] [BEq α] (op : BinaryOp) (a b : α) : Option Bool :=
  match op with
  | .eq => some (a == b)
  | .ne => some !(a == b)
  | .lt => some (a < b)
  | .le => some (a < b || a == b)
  | .gt => some (b < a)
  | .ge => some (b < a || a == b)
  | _ => none

def isComparison : BinaryOp → Bool
  | .eq => true
  | .ne => true
  | .lt => true
  | .le => true
  | .gt => true
  | .ge => true
  | _ => false

/-- Whether two values have the same type. -/
def sameType (a b : Value R) : Bool := a.typeName == b.typeName

def isNumber : Value R → Bool
  | .int _ => true
  | .word _ => true
  | .float _ => true
  | _ => false

/-- A comparison of two values, if the operator is one and has a meaning for them; a word compares with no number of
another type. -/
def comparison (op : BinaryOp) (a b : Value R) : Option Bool :=
  match a, b with
  | .int m, .int n => ordering op m n
  | .word m, .word n => ordering op m n
  | .float x, .float y => ordering op x y
  | .int m, .float y => ordering op (Scalar.ofInt m) y
  | .float x, .int n => ordering op x (Scalar.ofInt n)
  | .str s, .str t => ordering op s t
  | .char c, .char d => ordering op c d
  | .char c, .str t => ordering op (String.ofList [c]) t
  | .str s, .char d => ordering op s (String.ofList [d])
  | .bool p, .bool q => ordering op p.toNat q.toNat
  | a, b =>
    if isNumber a && isNumber b then none
    else match op with
    | .eq => some (a.same b)
    | .ne => some !(a.same b)
    | op => if isComparison op && (!sameType a b || a.typeName == "()") then some false else none

/-! ### All binary operators -/

/-- Members of two maps, the second one's where both have a key. -/
def merged (a b : Entries (Value R)) : Entries (Value R) := b.foldl (fun m e => Entries.insert e.1 e.2 m) a

/-- Two values joined, if they can be. -/
def joined (a b : Value R) : Option (Value R) :=
  match a, b with
  | .str s, v => some (.str (s ++ v.addedText))
  | v, .str s => some (.str (v.addedText ++ s))
  | .char c, .char d => some (.str (String.ofList [c, d]))
  | .array xs, .array ys => some (.array (xs ++ ys))
  | .blob xs, .blob ys => some (.blob (xs ++ ys))
  | .map xs, .map ys => some (.map (merged xs ys))
  | _, _ => none

/-- How an operator is named where there is no such function. -/
def opName : BinaryOp → String
  | .add => "+"
  | .sub => "-"
  | .mul => "*"
  | .div => "/"
  | .rem => "%"
  | .range => ".."
  | .closedRange => "..="
  | _ => "operator"

def arithmetic (op : BinaryOp) (a b : Value R) : Option (Except (Fault R) (Value R)) :=
  match a, b with
  | .int m, .int n => intArithmetic op m n
  | .float x, .float y => floatArithmetic op x y
  | .int m, .float y => floatArithmetic op (Scalar.ofInt m) y
  | .float x, .int n => floatArithmetic op x (Scalar.ofInt n)
  | a, b => if op = .add then (joined a b).map .ok else none

def binary (op : BinaryOp) (a b : Value R) : Except (Fault R) (Value R) :=
  match arithmetic op a b with
  | some answer => answer
  | none =>
    match comparison op a b with
    | some answer => .ok (.bool answer)
    | none => .error (.functionNotFound (opName op))

/-- The new value of an assignment with an operator; an array takes a value as a new item. -/
def updated (op : BinaryOp) (old v : Value R) : Except (Fault R) (Value R) :=
  match op, old, v with
  | .add, .array xs, .array ys => .ok (.array (xs ++ ys))
  | .add, .array xs, v => .ok (.array (xs ++ [v]))
  | .add, .blob xs, .int n => .ok (.blob (xs.push (UInt8.ofInt n)))
  | op, old, v => binary op old v

def negated : Value R → Except (Fault R) (Value R)
  | .int n => fitting "Negation" (-n)
  | .float x => .ok (.float (-x))
  | _ => .error (.functionNotFound "-")

def inverted : Value R → Except (Fault R) (Value R)
  | .bool b => .ok (.bool !b)
  | _ => .error (.functionNotFound "!")

/-- Whether a text stands in another one. -/
def occursIn (part : List Char) : List Char → Bool
  | [] => part.isEmpty
  | c :: rest => part.isPrefixOf (c :: rest) || occursIn part rest

def contains (container v : Value R) : Except (Fault R) (Value R) :=
  match container, v with
  | .array items, v => .ok (.bool (items.any v.same))
  | .map members, .str k => .ok (.bool (Entries.contains k members))
  | .str s, .str t => .ok (.bool (occursIn t.toList s.toList))
  | .str s, .char c => .ok (.bool (s.toList.contains c))
  | .blob bytes, .int n => .ok (.bool (bytes.contains (UInt8.ofInt n)))
  | .range a b closed, .int n => .ok (.bool (a ≤ n && (n < b || (closed && n == b))))
  | _, _ => .error (.functionNotFound "contains")

/-! ### Items -/

/-- The place of an index in a container of a size; a negative one counts from the end. -/
def place? (size : Nat) (i : Int) : Option Nat :=
  if 0 ≤ i then if i.toNat < size then some i.toNat else none
  else if i.natAbs ≤ size then some (size - i.natAbs) else none

/-- The item at an index. -/
def item (v i : Value R) : Except (Fault R) (Value R) :=
  match v, i with
  | .array items, .int n =>
    match (place? items.length n).bind (items[·]?) with
    | some x => .ok x
    | none => .error (.outOfBounds "Array" n)
  | .blob bytes, .int n =>
    match (place? bytes.size n).bind (bytes[·]?) with
    | some b => .ok (.int b.toNat)
    | none => .error (.outOfBounds "Array" n)
  | .str s, .int n =>
    let cs := s.toList
    match (place? cs.length n).bind (cs[·]?) with
    | some c => .ok (.char c)
    | none => .error (.outOfBounds "String" n)
  | .map members, .str k => .ok ((Entries.get? k members).getD .unit)
  | .array _, _ => .error .wrongType
  | .blob _, _ => .error .wrongType
  | .map _, _ => .error .wrongType
  | .str _, _ => .error .wrongType
  | _, _ => .error .noIndexer

/-- The value with another item at an index. -/
def setItem (v i x : Value R) : Except (Fault R) (Value R) :=
  match v, i with
  | .array items, .int n =>
    match place? items.length n with
    | some k => .ok (.array (items.set k x))
    | none => .error (.outOfBounds "Array" n)
  | .blob bytes, .int n =>
    match place? bytes.size n, x with
    | some k, .int b => .ok (.blob (bytes.setIfInBounds k (UInt8.ofInt b)))
    | some _, _ => .error .wrongType
    | none, _ => .error (.outOfBounds "Array" n)
  | .str s, .int n =>
    let cs := s.toList
    match place? cs.length n, x with
    | some k, .char c => .ok (.str (String.ofList (cs.set k c)))
    | some _, _ => .error .wrongType
    | none, _ => .error (.outOfBounds "String" n)
  | .map members, .str k => .ok (.map (Entries.insert k x members))
  | .array _, _ => .error .wrongType
  | .blob _, _ => .error .wrongType
  | .map _, _ => .error .wrongType
  | .str _, _ => .error .wrongType
  | _, _ => .error .noIndexer

/-! ### Functions -/

/-- The whole part of a float as an integer. -/
def wholePart (x : R) : Except (Fault R) (Value R) :=
  if Scalar.ofInt (2 ^ 63) < x || x < Scalar.ofInt minInt then .error (.overflow "Integer")
  else .ok (.int (Scalar.toIntIn minInt maxInt x))

def sizeOf? : Value R → Option Nat
  | .str s => some s.length
  | .array items => some items.length
  | .blob bytes => some bytes.size
  | .map members => some members.length
  | _ => none

/-- A function of the library that changes none of its arguments. -/
def libraryFunction (name : String) (args : List (Value R)) : Except (Fault R) (Value R) :=
  match name, args with
  | "type_of", [v] => .ok (.str v.typeName)
  | "print", [_] => .ok .unit
  | "debug", [_] => .ok .unit
  | "to_string", [v] => .ok (.str v.display)
  | "abs", [.int n] => fitting "Arithmetic" n.natAbs
  | "abs", [.float x] => .ok (.float (Scalar.abs x))
  | "round", [.float x] => .ok (.float (Scalar.round x))
  | "floor", [.float x] => .ok (.float (Scalar.floor x))
  | "ceiling", [.float x] => .ok (.float (Scalar.ceil x))
  | "to_int", [.float x] => wholePart x
  | "to_int", [.int n] => .ok (.int n)
  | "to_int", [.word n] => .ok (.int ((n : Int) - 2 ^ 64))
  | "to_int", [.char c] => .ok (.int c.toNat)
  | "to_float", [.int n] => .ok (.float (Scalar.ofInt n))
  | "to_float", [.word n] => .ok (.float (Scalar.ofNat n))
  | "contains", [v, x] => contains v x
  | "blob", [] => .ok (.blob #[])
  | "blob", [.int n] => .ok (.blob (Array.replicate n.toNat 0))
  | "blob", [.int n, .int b] => .ok (.blob (Array.replicate n.toNat (UInt8.ofInt b)))
  | "len", [v] =>
    match sizeOf? v with
    | some n => .ok (.int n)
    | none => .error (.functionNotFound name)
  | "is_empty", [v] =>
    match sizeOf? v with
    | some n => .ok (.bool (n == 0))
    | none => .error (.functionNotFound name)
  | _, _ => .error (.functionNotFound name)

/-- A function that changes its first argument: its answer and what the argument becomes. -/
def changingFunction? (name : String) (self : Value R) (args : List (Value R)) : Option (Value R × Value R) :=
  match name, self, args with
  | "push", .array items, [v] => some (.unit, .array (items ++ [v]))
  | "push", .blob bytes, [.int n] => some (.unit, .blob (bytes.push (UInt8.ofInt n)))
  | "pop", .array items, [] => some (items.getLast?.getD .unit, .array items.dropLast)
  | "clear", .array _, [] => some (.unit, .array [])
  | _, _, _ => none

/-! ### Functions of the `ui` module -/

/-- A node of a panel as a value. -/
def panelNode (component : String) (props : Entries (Value R)) (children : List (Value R)) : Value R :=
  .map (Entries.ofList [("type", .str component), ("props", .map props), ("children", .array children)])

def panelFunction? (name : String) (args : List (Value R)) : Option (Value R) :=
  match name, args with
  | "stack", [.map props, .array children] => some (panelNode "Stack" props children)
  | "card", [.map props, .array children] => some (panelNode "Card" props children)
  | "slider", [.map props] => some (panelNode "CupertinoSlider" props [])
  | "color_hsv", [.map props] => some (panelNode "ColorHSV" props [])
  | "text", [.map props] => some (panelNode "Text" props [])
  | "bind", [.str path] => some (.map [("$bindState", .str path)])
  | _, _ => none

/-- A function of a module. -/
def moduleFunction (path name : String) (args : List (Value R)) : Except (Fault R) (Value R) :=
  if path = "ui" then
    match panelFunction? name args with
    | some v => .ok v
    | none => .error (.functionNotFound name)
  else .error (.moduleNotFound path)

/-! ### Cases -/

/-- Whether a pattern is the value itself. -/
def Pattern.names : Pattern → Value R → Bool
  | .unit, .unit => true
  | .bool a, .bool b => a == b
  | .int a, .int b => a == b
  | .float q, .float x => Scalar.ofRat q == x
  | .char a, .char b => a == b
  | .str a, .str b => a == b
  | _, _ => false

/-- Whether a pattern accepts a value; ranges do not count where some case names the value itself. -/
def Pattern.accepts (named : Bool) (p : Pattern) (v : Value R) : Bool :=
  match p, v with
  | .any, _ => true
  | .range a b closed, .int n => !named && a ≤ n && (n < b || (closed && n == b))
  | p, v => p.names v

end Script
end LedStrip
