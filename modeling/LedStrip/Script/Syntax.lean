import LedStrip.Entries
import LedStrip.Script.Token

/-!
# Syntax of the script language

Every construct is an expression; those that are written as statements have the value `()`.  What a script defines at its
top level are functions, and what it does there is a list of expressions.
-/

namespace LedStrip
namespace Script

inductive BinaryOp where
  | add
  | sub
  | mul
  | div
  | rem
  | eq
  | ne
  | lt
  | le
  | gt
  | ge
  /-- From the first number to the one before the second. -/
  | range
  /-- From the first number to the second. -/
  | closedRange
  /-- An operator without a meaning for any two values here. -/
  | other
deriving DecidableEq, Repr, Inhabited

/-- What a case of a `switch` may be. -/
inductive Pattern where
  | any
  | unit
  | bool (b : Bool)
  | int (n : Int)
  | float (q : Rat)
  | char (c : Char)
  | str (s : String)
  | range (first last : Int) (closed : Bool)
deriving DecidableEq, Repr, Inhabited

mutual

inductive Expr where
  | unit
  | bool (b : Bool)
  | int (n : Int)
  | float (q : Rat)
  | char (c : Char)
  | str (s : String)
  /-- The texts of the parts, joined. -/
  | template (parts : List Expr)
  | array (items : List Expr)
  | map (keys : List String) (values : List Expr)
  | var (name : String)
  | this
  | call (name : String) (args : List Expr)
  | moduleCall (path name : String) (args : List Expr)
  | moduleVar (path name : String)
  | closure (params : List String) (body : Expr)
  /-- A value and the way from it through its members. -/
  | chain (root : Expr) (links : List Link)
  | negate (e : Expr)
  | not (e : Expr)
  | binary (op : BinaryOp) (left right : Expr)
  | and (left right : Expr)
  | or (left right : Expr)
  /-- The right value where the left one is `()`. -/
  | orElse (left right : Expr)
  /-- Whether the right value contains the left one. -/
  | member (left right : Expr)
  | block (body : List Expr)
  | ifElse (condition yes no : Expr)
  | switch (subject : Expr) (arms : List Arm)
  | whileLoop (condition body : Expr)
  | forLoop (name : String) (items body : Expr)
  | declare (name : String) (constant : Bool) (value : Expr)
  /-- Set a variable or what a chain from it leads to; with an operator, combine the old value with the new one. -/
  | assign (root : Expr) (links : List Link) (op : Option BinaryOp) (value : Expr)
  | returnValue (e : Expr)
  | throwValue (e : Expr)
  | breakLoop (e : Expr)
  | continueLoop
  | importModule (name : Expr)

inductive Link where
  | prop (name : String)
  | index (e : Expr)
  | method (name : String) (args : List Expr)

inductive Arm where
  | mk (patterns : List Pattern) (guard body : Expr)

end

instance : Inhabited Expr := ⟨.unit⟩

def Arm.patterns : Arm → List Pattern
  | .mk patterns _ _ => patterns

/-- Whether a construct stands without a semicolon behind it. -/
def Expr.isSelfTerminated : Expr → Bool
  | .block _ => true
  | .ifElse .. => true
  | .switch .. => true
  | .whileLoop .. => true
  | .forLoop .. => true
  | _ => false

def Expr.isVariable : Expr → Bool
  | .var _ => true
  | _ => false

structure Function where
  name : String
  params : List String
  body : Expr

instance : Inhabited Function := ⟨⟨"", [], .unit⟩⟩

/-- A script after reading. -/
structure Program where
  functions : List Function
  body : List Expr

namespace Program

/-- The function of a name that takes a number of arguments. -/
def function? (p : Program) (name : String) (arity : Nat) : Option Function :=
  p.functions.find? fun f => f.name == name && f.params.length == arity

def defines (p : Program) (name : String) (arity : Nat) : Bool := (p.function? name arity).isSome

def definesName (p : Program) (name : String) : Bool := p.functions.any (·.name == name)

/-- Names of all functions in alphabetical order. -/
def functionNames (p : Program) : List String := (p.functions.map (·.name)).mergeSort fun a b => decide (a ≤ b)

/-- One script after another: its functions replace those of the same name and arity. -/
def append (p q : Program) : Program where
  functions := (p.functions.filter fun f => !q.defines f.name f.params.length) ++ q.functions
  body := p.body ++ q.body

instance : Append Program := ⟨append⟩

end Program
end Script
end LedStrip
