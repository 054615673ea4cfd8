import LedStrip.Effect.Factory
import LedStrip.Loader.Diagnostic
import LedStrip.Script.Eval

/-!
# Effects written as scripts

A script effect keeps a value as its state and runs the hooks of its program with `this` bound to it.  Its factory calls
the entry function with the options and reads the machine that it describes: a length, an interval and the first state.
-/

namespace LedStrip

open Script (Value)

structure ScriptEffect (R : Type) where
  program : Script.Program
  state : Value R

namespace ScriptEffect

variable {R : Type} [Scalar R]

/-- Run a hook on the state; what it did stays done even if it fails. -/
def runHook (s : ScriptEffect R) (hook : Hook) (args : List (Value R)) :
    Except EffectError (Value R) × ScriptEffect R :=
  let (answer, this?) := s.program.call hook.name args (some s.state)
  let s := { s with state := this?.getD s.state }
  match answer with
  | .ok v => (.ok v, s)
  | .error f => (.error (.hook hook f.message), s)

/-- A value as a frame. -/
def frameOf (v : Value R) : Except EffectError Frame :=
  match v with
  | .blob bytes => .ok ⟨bytes⟩
  | v => .error (.hook .tick s!"expected a blob frame, got {v.typeName}")

instance : Effect R (ScriptEffect R) where
  onTick s n :=
    let (answer, s) := s.runHook .tick [.int n]
    (answer.bind frameOf, s)
  onReset s :=
    if s.program.defines Hook.reset.name 0 then
      let (answer, s) := s.runHook .reset []
      (answer.map fun _ => (), s)
    else (.ok (), s)
  onSetConfig s key v :=
    if s.program.defines Hook.setConfig.name 2 then
      let (answer, s) := s.runHook .setConfig [.str key, .ofJson v]
      (answer.map fun _ => (), s)
    else (.ok (), s)

end ScriptEffect

/-- A count in the description of a machine: a positive number, its fraction dropped. -/
def machineCount {R : Type} [Scalar R] (members : Entries (Value R)) (key : String) :
    Except EffectError Nat := do
  let n ←
    match Entries.get? key members with
    | none => throw (.hook .create s!"machine has no '{key}'")
    | some (.int n) => pure n
    | some (.float x) => pure (Scalar.toIntIn Script.minInt Script.maxInt x)
    | some v => throw (.hook .create s!"'{key}' must be a number, got {v.typeName}")
  if n < 1 then throw (.hook .create s!"'{key}' must be positive, got {n}")
  return n.toNat

structure ScriptFactory where
  id : String
  name : String
  description : String
  /-- The function that describes a machine. -/
  entry : String
  program : Script.Program

namespace ScriptFactory

variable {R : Type} [Scalar R]

/-- The machine that a value describes. -/
def machineOf (f : ScriptFactory) (v : Value R) : Except EffectError (Machine R (ScriptEffect R)) :=
  match v with
  | .map members => do
    let ledCount ← machineCount members "led_count"
    let speed ← machineCount members "speed"
    let state := (Entries.get? "state" members).getD (.map [])
    return Machine.create f.id ledCount speed ⟨f.program, state⟩
  | _ => .error (.hook .create s!"{f.entry} must return a machine map")

def create (f : ScriptFactory) (o : EffectOptions R) : Except EffectError (Machine R (ScriptEffect R)) :=
  match f.program.call f.entry [.ofJson o.toJson] none with
  | (.error e, _) => .error (.hook .create e.message)
  | (.ok v, _) => f.machineOf v

def toFactory (f : ScriptFactory) : Factory R (ScriptEffect R) where
  id := f.id
  name := f.name
  description := f.description
  create := f.create

/-- Text for a log. -/
def describe (p : Script.Program) : String :=
  s!"ScriptUnit \x7b functions: {Text.quoteList p.functionNames} \x7d"

end ScriptFactory
end LedStrip
