import LedStrip.Loader.Diagnostic
import LedStrip.Panel.Widget
import LedStrip.Script.Eval

/-!
# Panels of an effect

A panel is described by data or drawn by a script.  `EffectPanel.build` gives the widgets for a state; only a script has
to be run again when the state changes.
-/

namespace LedStrip

open Script (Value)

/-- Where the panel of an effect comes from. -/
inductive PanelMode where
  | json
  | script
deriving DecidableEq, Repr, Inhabited

namespace PanelMode

def name : PanelMode → String
  | json => "json"
  | script => "script"

/-- A mode by its name or by what it is like. -/
def ofName? : String → Option PanelMode
  | "json" => some json
  | "declarative" => some json
  | "script" => some script
  | "imperative" => some script
  | _ => none

def parse (s : String) : Except String PanelMode :=
  match ofName? s with
  | some x => .ok x
  | none => .error s!"unknown ui mode '{s}' (expected json or script)"

end PanelMode

structure ScriptPanel (R : Type) where
  /-- The function that draws the panel. -/
  entry : String
  program : Script.Program
  state : Json R
  bridge : Option (BridgeConfig R) := none
  speed : Option SpeedRange := none

namespace ScriptPanel

variable {R : Type} [Scalar R]

/-- The panel that the script draws for a state. -/
def spec (p : ScriptPanel R) (state : PanelState R) : Except PanelError (PanelSpec R) :=
  match (p.program.call p.entry [.ofJson state.value] none).1 with
  | .error f => .error (.renderFailed f.message)
  | .ok v =>
    match v.toJson? with
    | none =>
      .error (.renderFailed "Syntax error: invalid type: byte array, expected any valid JSON value")
    | some node => do
      let spec ← PanelSpec.ofNodeJson node state.value
      return { spec with bridge := p.bridge, speed := p.speed }

def build (p : ScriptPanel R) (state : PanelState R) : Except PanelError (Widget R) := do
  (← p.spec state).compile

end ScriptPanel

inductive EffectPanel (R : Type) where
  | spec (s : PanelSpec R)
  | script (p : ScriptPanel R)

namespace EffectPanel

variable {R : Type}

def mode : EffectPanel R → PanelMode
  | spec _ => .json
  | script _ => .script

def initialState : EffectPanel R → Json R
  | spec s => s.state
  | script p => p.state

def bridge : EffectPanel R → Option (BridgeConfig R)
  | spec s => s.bridge
  | script p => p.bridge

def speedRange : EffectPanel R → SpeedRange
  | spec s => s.speed.getD .standard
  | script p => p.speed.getD .standard

/-- Whether the widgets depend on the state beyond their bindings. -/
def rebuilds : EffectPanel R → Bool
  | spec _ => false
  | script _ => true

/-- The widgets for a state. -/
def build [Scalar R] (p : EffectPanel R) (state : PanelState R) : Except PanelError (Widget R) :=
  match p with
  | spec s => s.compile
  | script p => p.build state

end EffectPanel
end LedStrip
