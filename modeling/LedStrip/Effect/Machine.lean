import LedStrip.Effect.Options

/-!
# The machine around an effect

A machine is idle, running or paused, owns the frame on the strip and calls the hooks of its effect.  Its frame always
has the size of the strip: a tick with a frame of another size fails and keeps the old one.
-/

namespace LedStrip

inductive Status where
  | idle
  | running
  | paused
deriving DecidableEq, Repr, Inhabited

namespace Status

def name : Status → String
  | idle => "idle"
  | running => "running"
  | paused => "paused"

def ofName? : String → Option Status
  | "idle" => some idle
  | "running" => some running
  | "paused" => some paused
  | _ => none

/-- The name of the constructor. -/
def label : Status → String
  | idle => "Idle"
  | running => "Running"
  | paused => "Paused"

end Status

structure Machine (R σ : Type) where
  effectId : String
  status : Status
  /-- Tick interval in milliseconds. -/
  speed : Nat
  ledCount : Nat
  leds : Frame
  effect : σ

namespace Machine

variable {R σ τ : Type}

/-- An idle machine with a dark strip; an interval of zero becomes one. -/
def create (effectId : String) (ledCount speed : Nat) (effect : σ) : Machine R σ :=
  ⟨effectId, .idle, max speed 1, ledCount, Frame.blank ledCount, effect⟩

/-- The same machine around another presentation of its effect. -/
def mapEffect (f : σ → τ) (m : Machine R σ) : Machine R τ := { m with effect := f m.effect }

/-! ### Transitions -/

/-- Change from one status to another; the answer says whether it was the status. -/
def transition (source target : Status) (m : Machine R σ) : Bool × Machine R σ :=
  if m.status = source then (true, { m with status := target }) else (false, m)

def start (m : Machine R σ) : Bool × Machine R σ := m.transition .idle .running

def pause (m : Machine R σ) : Bool × Machine R σ := m.transition .running .paused

def resume (m : Machine R σ) : Bool × Machine R σ := m.transition .paused .running

variable [Effect R σ]

/-- Back to idle with a dark strip, from any status and whatever the reset hook answers. -/
def stop (m : Machine R σ) : Except EffectError Unit × Machine R σ :=
  let (answer, effect) := Effect.onReset R m.effect
  (answer, { m with status := .idle, leds := Frame.blank m.ledCount, effect := effect })

/-- One frame, if running; the answer says whether there was one. -/
def tick (m : Machine R σ) : Except EffectError Bool × Machine R σ :=
  if m.status = .running then
    let (answer, effect) := Effect.onTick R m.effect m.ledCount
    let m := { m with effect := effect }
    match answer with
    | .error e => (.error e, m)
    | .ok frame =>
      if frame.size = Frame.byteCount m.ledCount then (.ok true, { m with leds := frame })
      else (.error (.frameSize (Frame.byteCount m.ledCount) frame.size), m)
  else (.ok false, m)

/-! ### Settings -/

omit [Effect R σ] in
/-- Set the interval; zero becomes one. -/
def setSpeed (m : Machine R σ) (ms : Nat) : Machine R σ := { m with speed := max ms 1 }

/-- An interval given as a value: a positive number, rounded. -/
def speedValue [Scalar R] (v : Json R) : Except EffectError Nat := do
  let ms ← finiteNumber "speed" v
  if ms ≤ Scalar.ofInt 0 then throw (.invalidValue "speed" "speed must be positive")
  else return Scalar.toWord (Scalar.round ms)

/-- Set a parameter; `speed` is the machine's own and all other keys are the effect's. -/
def setConfig [Scalar R] (m : Machine R σ) (key : String) (v : Json R) :
    Except EffectError Unit × Machine R σ :=
  if key = "speed" then
    match speedValue v with
    | .ok ms => (.ok (), m.setSpeed ms)
    | .error e => (.error e, m)
  else
    let (answer, effect) := Effect.onSetConfig m.effect key v
    (answer, { m with effect := effect })

omit [Effect R σ] in
/-- Text for a log. -/
def describe (m : Machine R σ) : String :=
  s!"EffectMachine \x7b effect_id: {Text.quote m.effectId}, status: {m.status.label}, speed: {m.speed}, " ++
    s!"led_count: {m.ledCount}, .. \x7d"

end Machine
end LedStrip
