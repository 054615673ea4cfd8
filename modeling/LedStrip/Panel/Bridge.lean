import LedStrip.Panel.Spec
import LedStrip.Panel.State
import LedStrip.Scheduler.Basic

/-!
# The bridge from a panel to a machine

An edit is a path and a value.  A path below the namespace of the effect names a key; the edit replaces the key in the
state and makes one call on the machine, whose answer decides the answer of the edit and nothing else.
-/

namespace LedStrip

/-- What an edit did. -/
inductive EditAction (R : Type) where
  /-- The path names no key of the effect. -/
  | ignored
  | speed (ms : R)
  | color (c : TaggedColor R)
  | config (key : String) (v : Json R)

/-- The machine as edits see it. -/
class MachineControl (R κ : Type) where
  changeSpeed : κ → R → Except EffectError Unit × κ
  setConfig : κ → String → Json R → Except EffectError Unit × κ

/-- A positive, finite interval, or what is wrong with it. -/
def positiveInterval {R : Type} [Scalar R] (ms : R) : Except EffectError R :=
  if !Scalar.isFinite ms || ms ≤ Scalar.ofInt 0 then
    .error (.invalidValue "speed" (Scalar.text .plain ms ++ " is not a positive interval"))
  else .ok ms

instance {R σ : Type} [Scalar R] [Effect R σ] : MachineControl R (Scheduler R σ) where
  changeSpeed s ms :=
    match positiveInterval ms with
    | .ok ms => (.ok (), s.setSpeed (Scalar.toWord (Scalar.round ms)))
    | .error e => (.error e, s)
  setConfig s key v := s.setConfig key v

/-- A state with the way in which edits of it reach a machine. -/
structure Bridge (R : Type) where
  config : BridgeConfig R
  state : PanelState R

namespace Bridge

variable {R κ : Type}

def create (initial : Json R) (config : Option (BridgeConfig R)) : Bridge R :=
  ⟨config.getD {}, { value := initial }⟩

/-- Set a key of the effect without a call on the machine. -/
def writeBack (b : Bridge R) (key : String) (v : Json R) : Bridge R :=
  { b with state := b.state.withEffectValue key v }

/-- The key that a path names. -/
def keyOf? (path : String) : Option String :=
  match (Text.pieces '/' path).filter (· ≠ "") with
  | root :: key :: _ => if root = effectNamespace then some key else none
  | _ => none

variable [Scalar R]

/-- The color that the state shows: hue in degrees, saturation and brightness in percent. -/
def shownColor (s : PanelState R) : TaggedColor R :=
  let number (key : String) (default : Nat) : R := (s.effectNumber? key).getD (Scalar.ofNat default)
  .hsv (number "hue" 0) (number "saturation" 100 / Scalar.ofNat 100)
    (number "brightness" 100 / Scalar.ofNat 100)

/-- A value on its way to the machine: multiplied, if its key has a factor and both are numbers. -/
def scaled (config : BridgeConfig R) (key : String) (v : Json R) : Json R :=
  match (Entries.get? key config.scaleKeys).bind Json.asNumber?, v.asNumber? with
  | some factor, some x => if Scalar.isFinite (x * factor) then .float (x * factor) else v
  | _, _ => v

variable [MachineControl R κ]

/-- The call that an edit of `key` makes, once the state holds the new value. -/
def call (b : Bridge R) (control : κ) (key : String) (v : Json R) :
    Except EffectError (EditAction R) × κ :=
  if key = "speed" then
    match finiteNumber key v with
    | .error e => (.error e, control)
    | .ok ms =>
      let (answer, control) := MachineControl.changeSpeed control ms
      (answer.map fun _ => .speed ms, control)
  else if key ∈ b.config.colorKeys then
    let color := shownColor b.state
    let (answer, control) := MachineControl.setConfig control "color" color.toJson
    (answer.map fun _ => .color color, control)
  else
    let v := scaled b.config key v
    let (answer, control) := MachineControl.setConfig control key v
    (answer.map fun _ => .config key v, control)

/-- Apply one edit. -/
def apply (b : Bridge R) (control : κ) (path : String) (v : Json R) :
    Except EffectError (EditAction R) × Bridge R × κ :=
  match keyOf? path with
  | none => (.ok .ignored, b, control)
  | some key =>
    let b := b.writeBack key v
    let (answer, control) := b.call control key v
    (answer, b, control)

end Bridge
end LedStrip
