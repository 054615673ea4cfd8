import LedStrip.Script.Operators

/-!
# Running a script

The evaluator recurses on the syntax; calls of script functions go through a `Caller`, which `Program.caller` builds for a
limited depth.  An environment survives a fault, so that what a function did to `this` before it failed stays done.
Assignments and method calls reach into the variable they start from; everything else works on copies.
-/

namespace LedStrip
namespace Script

/-- How the evaluation of a construct ends. -/
inductive Outcome (R α : Type) where
  | ok (a : α)
  | fault (f : Fault R)
  | returned (v : Value R)
  | broke (v : Value R)
  | continued

structure Variable (R : Type) where
  name : String
  value : Value R
  constant : Bool := false

/-- Variables, newest first, and what a method was called on. -/
structure Env (R : Type) where
  vars : List (Variable R) := []
  this? : Option (Value R) := none

def Eval (R α : Type) : Type := Env R → Outcome R α × Env R

namespace Eval

variable {R α β : Type}

/-- The outcome of what follows a success. -/
def andThen (m : Eval R α) (f : α → Eval R β) : Eval R β := fun env =>
  match m env with
  | (.ok a, env) => f a env
  | (.fault e, env) => (.fault e, env)
  | (.returned v, env) => (.returned v, env)
  | (.broke v, env) => (.broke v, env)
  | (.continued, env) => (.continued, env)

instance : Monad (Eval R) where
  pure a := fun env => (.ok a, env)
  bind := andThen

def ends (o : Outcome R α) : Eval R α := fun env => (o, env)

def fail (f : Fault R) : Eval R α := ends (.fault f)

def ofExcept : Except (Fault R) α → Eval R α
  | .ok a => pure a
  | .error f => fail f

end Eval

/-! ### Variables -/

section Variables

variable {R : Type}

def lookup? (name : String) (vars : List (Variable R)) : Option (Variable R) := vars.find? (·.name == name)

/-- Give the newest variable of a name another value. -/
def setVar (name : String) (v : Value R) : List (Variable R) → List (Variable R)
  | [] => []
  | x :: rest => if x.name == name then { x with value := v } :: rest else x :: setVar name v rest

def declare (name : String) (constant : Bool) (v : Value R) : Eval R (Value R) := fun env =>
  (.ok .unit, { env with vars := ⟨name, v, constant⟩ :: env.vars })

/-- What is declared inside ends with the block. -/
def inScope {α : Type} (m : Eval R α) : Eval R α := fun env =>
  let (o, after) := m env
  (o, { after with vars := after.vars.drop (after.vars.length - env.vars.length) })

end Variables

/-! ### Calls -/

/-- A call of a script function by name: with arguments and `this`, it gives the outcome and what became of `this`.  There
is nothing where no function of that name takes so many arguments. -/
abbrev Caller (R : Type) := String → List (Value R) → Option (Value R) →
  Option (Outcome R (Value R) × Option (Value R))

section Calls

variable {R : Type} [Scalar R]

def outcomeOf {α : Type} : Except (Fault R) α → Outcome R α
  | .ok a => .ok a
  | .error f => .fault f

/-- A method call: its outcome and what the value becomes. -/
def callMethod (call : Caller R) (name : String) (args : List (Value R)) (self : Value R) :
    Outcome R (Value R) × Value R :=
  match call name args (some self) with
  | some (o, self') => (o, self'.getD self)
  | none =>
    match changingFunction? name self args with
    | some (answer, self') => (.ok answer, self')
    | none => (outcomeOf (libraryFunction name (self :: args)), self)

/-- Set a variable that was given as an argument. -/
def setArgument (e : Option Expr) (v : Value R) : Eval R Unit := fun env =>
  match e with
  | some (.var name) => (.ok (), { env with vars := setVar name v env.vars })
  | some .this => (.ok (), { env with this? := env.this?.map fun _ => v })
  | _ => (.ok (), env)

/-- A call in the form of a function. -/
def callFunction (call : Caller R) (name : String) (args : List Expr) (vs : List (Value R)) :
    Eval R (Value R) :=
  match call name vs none with
  | some (o, _) => .ends o
  | none =>
    match vs with
    | [] => .ofExcept (libraryFunction name vs)
    | self :: more =>
      match changingFunction? name self more with
      | some (answer, self') => do
        setArgument args.head? self'
        return answer
      | none => .ofExcept (libraryFunction name vs)

end Calls

/-! ### Ways into a value -/

/-- A link with its arguments evaluated. -/
inductive Step (R : Type) where
  | prop (name : String)
  | index (i : Value R)
  | method (name : String) (args : List (Value R))

def Link.isMethod : Link → Bool
  | .method .. => true
  | _ => false

section Steps

variable {R : Type} [Scalar R]

/-- A member of a map; one that is not there is `()`. -/
def property (v : Value R) (name : String) : Except (Fault R) (Value R) :=
  match v with
  | .map members => .ok ((Entries.get? name members).getD .unit)
  | _ => .error (.unknownProperty name)

/-- The value at the end of steps without calls. -/
def read : List (Step R) → Value R → Except (Fault R) (Value R)
  | [], v => .ok v
  | .prop name :: rest, v => do read rest (← property v name)
  | .index i :: rest, v => do read rest (← item v i)
  | .method name _ :: _, _ => .error (.functionNotFound name)

/-- Put an item back where it came from; a key that was not there is not added. -/
def putBack (v i x : Value R) : Value R :=
  match v, i with
  | .map members, .str k => if Entries.contains k members then .map (Entries.insert k x members) else v
  | v, i =>
    match setItem v i x with
    | .ok v => v
    | .error _ => v

/-- The outcome at the end of steps with calls, and what the value becomes. -/
def follow (call : Caller R) : List (Step R) → Value R → Outcome R (Value R) × Value R
  | [], v => (.ok v, v)
  | .prop name :: rest, v =>
    match property v name with
    | .error f => (.fault f, v)
    | .ok x =>
      let (o, x) := follow call rest x
      (o, putBack v (.str name) x)
  | .index i :: rest, v =>
    match item v i with
    | .error f => (.fault f, v)
    | .ok x =>
      let (o, x) := follow call rest x
      (o, putBack v i x)
  | .method name args :: rest, v =>
    match callMethod call name args v with
    | (.ok x, v) => ((follow call rest x).1, v)
    | (o, v) => (o, v)

/-- The value after an update at the end of steps. -/
def store (update : Value R → Except (Fault R) (Value R)) : List (Step R) → Value R →
    Except (Fault R) (Value R)
  | [], v => update v
  | [.prop name], v =>
    match v with
    | .map members => do
      let x ← update ((Entries.get? name members).getD .unit)
      return .map (Entries.insert name x members)
    | _ => .error (.noWritableProperty name)
  | [.index i], v =>
    match v, i with
    | .map members, .str k => do
      let x ← update ((Entries.get? k members).getD .unit)
      return .map (Entries.insert k x members)
    | v, i => do
      let old ← item v i
      let x ← update old
      setItem v i x
  | .prop name :: rest, v => do
    let x ← store update rest (← property v name)
    return putBack v (.str name) x
  | .index i :: rest, v => do
    let x ← store update rest (← item v i)
    return putBack v i x
  | .method name _ :: _, _ => .error (.functionNotFound name)

/-- The new value of an assignment. -/
def assigned (op : Option BinaryOp) (x old : Value R) : Except (Fault R) (Value R) :=
  match op with
  | none => .ok x
  | some op => updated op old x

/-! ### Places -/

/-- Change the value of a variable; its environment does not hold the value meanwhile. -/
def changeVar {α : Type} (name : String) (f : Value R → Outcome R α × Value R) : Eval R α := fun env =>
  match lookup? name env.vars with
  | none => (.fault (.variableNotFound name), env)
  | some x =>
    let env := { env with vars := setVar name .unit env.vars }
    let (o, v) := f x.value
    (o, { env with vars := setVar name v env.vars })

/-- Change what a method was called on. -/
def changeThis {α : Type} (f : Value R → Outcome R α × Value R) : Eval R α := fun env =>
  match env.this? with
  | none => (.fault .unboundThis, env)
  | some v =>
    let env := { env with this? := none }
    let (o, v) := f v
    (o, { env with this? := some v })

def readVar (name : String) : Eval R (Value R) := fun env =>
  match lookup? name env.vars with
  | none => (.fault (.variableNotFound name), env)
  | some x => (.ok x.value, env)

def readThis : Eval R (Value R) := fun env =>
  match env.this? with
  | none => (.fault .unboundThis, env)
  | some v => (.ok v, env)

/-- Fail where a variable is constant. -/
def checkWritable (name : String) : Eval R Unit := fun env =>
  match lookup? name env.vars with
  | none => (.fault (.variableNotFound name), env)
  | some x => (if x.constant then .fault (.constantModified name) else .ok (), env)

/-- An update that leaves the value alone where it fails. -/
def attempt (f : Value R → Except (Fault R) (Value R)) (v : Value R) : Outcome R (Value R) × Value R :=
  match f v with
  | .ok v => (.ok .unit, v)
  | .error e => (.fault e, v)

/-- Carry out an assignment. -/
def assignSteps (root : Expr) (steps : List (Step R)) (op : Option BinaryOp) (x : Value R) :
    Eval R (Value R) :=
  let f := attempt (store (assigned op x) steps)
  match root with
  | .var name => do
    checkWritable name
    changeVar name f
  | .this => changeThis f
  | _ => .fail .wrongType

end Steps

/-! ### Loops -/

section Loops

variable {R : Type} [Scalar R]

/-- Most rounds of a loop without a range. -/
def loopLimit : Nat := 10 ^ 9

def repeatWhile (condition body : Eval R (Value R)) : Nat → Eval R (Value R)
  | 0, env => (.fault .tooManySteps, env)
  | n + 1, env =>
    match condition env with
    | (.ok (.bool true), env) =>
      match body env with
      | (.ok _, env) => repeatWhile condition body n env
      | (.continued, env) => repeatWhile condition body n env
      | (.broke v, env) => (.ok v, env)
      | (o, env) => (o, env)
    | (.ok (.bool false), env) => (.ok .unit, env)
    | (.ok _, env) => (.fault .wrongType, env)
    | (o, env) => (o, env)

/-- Run the body for items number `k`, `k + 1`, …, as many as are left. -/
def iterate (item : Nat → Value R) (body : Value R → Eval R (Value R)) : Nat → Nat → Eval R (Value R)
  | _, 0, env => (.ok .unit, env)
  | k, left + 1, env =>
    match body (item k) env with
    | (.ok _, env) => iterate item body (k + 1) left env
    | (.continued, env) => iterate item body (k + 1) left env
    | (.broke v, env) => (.ok v, env)
    | (o, env) => (o, env)

/-- How many items a value has, and each of them. -/
def items? : Value R → Option (Nat × (Nat → Value R))
  | .range a b closed =>
    some ((b - a + (if closed then 1 else 0)).toNat, fun k => .int (a + k))
  | .array vs =>
    let vs := vs.toArray
    some (vs.size, fun k => (vs[k]?).getD .unit)
  | .blob bytes => some (bytes.size, fun k => .int ((bytes[k]?).getD 0).toNat)
  | .str s =>
    let cs := s.toList.toArray
    some (cs.size, fun k => .char ((cs[k]?).getD ' '))
  | _ => none

end Loops

/-! ### Expressions -/

section Expressions

variable {R : Type} [Scalar R]

def truth : Value R → Eval R Bool
  | .bool b => pure b
  | _ => .fail .wrongType

mutual

def eval (call : Caller R) : Expr → Eval R (Value R)
  | .unit => pure .unit
  | .bool b => pure (.bool b)
  | .int n => pure (.int n)
  | .float q => pure (.float (Scalar.ofRat q))
  | .char c => pure (.char c)
  | .str s => pure (.str s)
  | .template parts => do
    let vs ← evalAll call parts
    return .str (vs.foldl (fun out v => out ++ v.addedText) "")
  | .array items => do return .array (← evalAll call items)
  | .map keys values => do return .map (Entries.ofList (keys.zip (← evalAll call values)))
  | .var name => readVar name
  | .this => readThis
  | .call name args => do callFunction call name args (← evalAll call args)
  | .moduleCall path name args => do .ofExcept (moduleFunction path name (← evalAll call args))
  | .moduleVar path name => .fail (if path = "ui" then .variableNotFound name else .moduleNotFound path)
  | .closure _ _ => pure .closure
  | .chain root links => do
    let steps ← evalLinks call links
    if links.any Link.isMethod then
      match root with
      | .var name => changeVar name (follow call steps)
      | .this => changeThis (follow call steps)
      | root => do
        let v ← eval call root
        .ends (follow call steps v).1
    else do
      let v ← eval call root
      .ofExcept (read steps v)
  | .negate e => do .ofExcept (negated (← eval call e))
  | .not e => do .ofExcept (inverted (← eval call e))
  | .binary op left right => do
    let a ← eval call left
    let b ← eval call right
    .ofExcept (binary op a b)
  | .and left right => do
    if ← truth (← eval call left) then return .bool (← truth (← eval call right)) else return .bool false
  | .or left right => do
    if ← truth (← eval call left) then return .bool true else return .bool (← truth (← eval call right))
  | .orElse left right => do
    match ← eval call left with
    | .unit => eval call right
    | v => return v
  | .member left right => do
    let a ← eval call left
    let b ← eval call right
    .ofExcept (contains b a)
  | .block body => inScope (evalBody call .unit body)
  | .ifElse condition yes no => do
    if ← truth (← eval call condition) then eval call yes else eval call no
  | .switch subject arms => do
    let v ← eval call subject
    evalArms call v (arms.any fun a => a.patterns.any (·.names v)) arms
  | .whileLoop condition body => repeatWhile (eval call condition) (eval call body) loopLimit
  | .forLoop name items body => do
    match items? (← eval call items) with
    | none => .fail .notIterable
    | some (count, item) =>
      iterate item (fun v => inScope do
        let _ ← declare name false v
        eval call body) 0 count
  | .declare name constant value => do declare name constant (← eval call value)
  | .assign root links op value => do
    let x ← eval call value
    let steps ← evalLinks call links
    assignSteps root steps op x
  | .returnValue e => do .ends (.returned (← eval call e))
  | .throwValue e => do .fail (.thrown (← eval call e))
  | .breakLoop e => do .ends (.broke (← eval call e))
  | .continueLoop => .ends .continued
  | .importModule name => do
    match ← eval call name with
    | .str path => .fail (.moduleNotFound path)
    | _ => .fail .wrongType

/-- Values of expressions, from left to right. -/
def evalAll (call : Caller R) : List Expr → Eval R (List (Value R))
  | [] => pure []
  | e :: rest => do
    let v ← eval call e
    let vs ← evalAll call rest
    return v :: vs

def evalLinks (call : Caller R) : List Link → Eval R (List (Step R))
  | [] => pure []
  | .prop name :: rest => do
    let steps ← evalLinks call rest
    return .prop name :: steps
  | .index e :: rest => do
    let i ← eval call e
    let steps ← evalLinks call rest
    return .index i :: steps
  | .method name args :: rest => do
    let vs ← evalAll call args
    let steps ← evalLinks call rest
    return .method name vs :: steps

/-- The value of the last of several expressions, or a given value where there is none. -/
def evalBody (call : Caller R) : Value R → List Expr → Eval R (Value R)
  | last, [] => pure last
  | _, e :: rest => do evalBody call (← eval call e) rest

/-- The first case that accepts a value; without one the answer is `()`. -/
def evalArms (call : Caller R) : Value R → Bool → List Arm → Eval R (Value R)
  | _, _, [] => pure .unit
  | v, named, .mk patterns guard body :: rest => do
    if patterns.any (·.accepts named v) then
      if ← truth (← eval call guard) then eval call body else evalArms call v named rest
    else evalArms call v named rest

end

end Expressions

/-! ### Programs -/

namespace Program

variable {R : Type} [Scalar R]

/-- Deepest nesting of calls. -/
def maxCalls : Nat := 64

/-- The outcome of a function whose body ended somehow. -/
def answer : Outcome R (Value R) → Outcome R (Value R)
  | .ok v => .ok v
  | .returned v => .ok v
  | .fault f => .fault f
  | .broke v => .ok v
  | .continued => .ok .unit

/-- Parameters with their values. -/
def bindings : List String → List (Value R) → List (Variable R)
  | p :: ps, v :: vs => bindings ps vs ++ [⟨p, v, false⟩]
  | _, _ => []

/-- Calls of the functions of a program, nested at most so deep. -/
def caller (p : Program) : Nat → Caller R
  | 0, name, args, this? => (p.function? name args.length).map fun _ => (.fault .callsTooDeep, this?)
  | depth + 1, name, args, this? =>
    (p.function? name args.length).map fun f =>
      let (o, env) := eval (caller p depth) f.body { vars := bindings f.params args, this? := this? }
      (answer o, env.this?)

/-- Call a function from outside: the answer, and what became of `this`. -/
def call (p : Program) (name : String) (args : List (Value R)) (this? : Option (Value R)) :
    Except (Fault R) (Value R) × Option (Value R) :=
  match caller p maxCalls name args this? with
  | some (.ok v, this?) => (.ok v, this?)
  | some (.fault f, this?) => (.error f, this?)
  | some (_, this?) => (.ok .unit, this?)
  | none => (.error (.functionNotFound name), this?)

/-- Run what stands at the top level, with some variables from outside; the variables are given back. -/
def run (p : Program) (vars : List (Variable R)) : Except (Fault R) (List (Variable R)) :=
  match evalBody (caller p maxCalls) .unit p.body { vars := vars } with
  | (.fault f, _) => .error f
  | (_, env) => .ok env.vars

end Program
end Script
end LedStrip
