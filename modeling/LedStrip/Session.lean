import LedStrip.Device
import LedStrip.Effect.Factory
import LedStrip.Loader.EffectPanel
import LedStrip.Panel.Bridge
import LedStrip.Panel.Rendering

/-!
# Preview sessions

A session holds one machine with its scheduler and, where there is one, the panel that edits it.  Edits go through the
bridge; the interval that they ask for is brought into the range of the panel, and what the machine made of it is written
back to the state.  The widgets always belong to the state `shown`, which is the current one unless the panel could not be
built for it.
-/

namespace LedStrip

inductive SessionError where
  | effect (e : EffectError)
  | panel (e : PanelError)
  | noControl (index : Nat)
deriving DecidableEq, Repr

/-- Name of the error for a program that reads it. -/
def SessionError.kind : SessionError → String
  | effect e => e.kind
  | panel e => e.kind
  | noControl _ => "NoControl"

def SessionError.message : SessionError → String
  | effect e => e.message
  | panel e => e.message
  | noControl index => s!"No control at index {index}"

/-- How a session sizes and drives its machine. -/
structure SessionOptions (R : Type) where
  /-- Length of the strip without a device; zero leaves it to the effect. -/
  ledCount : Nat := 0
  device : Option (Device R) := none
  policy : TickPolicy := .halt

namespace SessionOptions

variable {R : Type}

/-- The strips of a device win over a length. -/
def resolvedLedCount (o : SessionOptions R) : Nat :=
  match o.device with
  | some d => d.ledCount
  | none => o.ledCount

end SessionOptions

/-- A scheduler whose interval stays in a range. -/
structure RangedScheduler (R σ : Type) where
  range : SpeedRange
  scheduler : Scheduler R σ

instance {R σ : Type} [Scalar R] [Effect R σ] : MachineControl R (RangedScheduler R σ) where
  changeSpeed c ms :=
    match positiveInterval ms with
    | .ok ms => (.ok (), { c with scheduler := c.scheduler.setSpeed (c.range.clamp ms) })
    | .error e => (.error e, c)
  setConfig c key v :=
    let (answer, scheduler) := c.scheduler.setConfig key v
    (answer, { c with scheduler })

structure Session (R σ : Type) where
  effectId : String
  name : String
  scheduler : Scheduler R σ
  bridge : Bridge R
  panel : Option (EffectPanel R)
  widgets : Option (Widget R)
  /-- The state that the widgets were built for. -/
  shown : PanelState R
  range : SpeedRange
  device : Option (Device R)

namespace Session

variable {R σ : Type} [Scalar R]

/-- Options of the machine: a panel that shows an interval starts it at that interval. -/
def machineOptions (state : PanelState R) (options : SessionOptions R) : EffectOptions R where
  ledCount? := if 0 < options.resolvedLedCount then some options.resolvedLedCount else none
  speed? :=
    ((state.effectNumber? "speed").filter fun ms => Scalar.ofNat 1 ≤ ms).map fun ms =>
      Scalar.toWord (Scalar.round ms)

/-- A session for a factory, with a panel or without. -/
def create (factory : Factory R σ) (panel : Option (EffectPanel R)) (options : SessionOptions R) :
    Except SessionError (Session R σ) := do
  let initial := (panel.map (·.initialState)).getD (.obj [])
  let state : PanelState R := { value := initial }
  let machine ← (factory.create (machineOptions state options)).mapError .effect
  let widgets ←
    match panel with
    | none => pure none
    | some p => ((p.build state).map some).mapError .panel
  return { effectId := factory.id, name := factory.name,
           scheduler := .create machine options.policy,
           bridge := .create initial (panel.bind (·.bridge)),
           panel, widgets, shown := state,
           range := (panel.map (·.speedRange)).getD .standard, device := options.device }

omit [Scalar R] in
def status (s : Session R σ) : Status := s.scheduler.status

omit [Scalar R] in
def speed (s : Session R σ) : Nat := s.scheduler.speed

omit [Scalar R] in
def leds (s : Session R σ) : Frame := s.scheduler.leds

omit [Scalar R] in
def state (s : Session R σ) : PanelState R := s.bridge.state

def controls (s : Session R σ) : List (Control R) := (s.widgets.map Widget.controls).getD []

/-- The panel against the current state. -/
def panelLines (s : Session R σ) : List PanelLine :=
  (s.widgets.map fun w => w.lines s.state).getD []

/-- Build the widgets of a script panel again, if the state is another than the one shown. -/
def refreshPanel (s : Session R σ) : Except PanelError Unit × Session R σ :=
  if s.state.same s.shown then (.ok (), s)
  else
    match s.panel with
    | none => (.ok (), { s with shown := s.state })
    | some panel =>
      if panel.rebuilds then
        match panel.build s.state with
        | .ok w => (.ok (), { s with widgets := some w, shown := s.state })
        | .error e => (.error e, s)
      else (.ok (), { s with shown := s.state })

/-- Write the interval of the machine to the state where it shows another. -/
def writeBackSpeed (s : Session R σ) : Session R σ :=
  if ((s.state.effectNumber? "speed").map (· == Scalar.ofNat s.speed)).getD false then s
  else { s with bridge := s.bridge.writeBack "speed" (.ofNat s.speed) }

variable [Effect R σ]

/-- Apply one edit.  A panel that cannot be built for the new state is the error to report. -/
def edit (s : Session R σ) (path : String) (v : Json R) :
    Except SessionError (EditAction R) × Session R σ :=
  let (answer, bridge, control) := s.bridge.apply (RangedScheduler.mk s.range s.scheduler) path v
  let s := { s with bridge, scheduler := control.scheduler }
  let s :=
    match answer with
    | .ok (.speed _) => s.writeBackSpeed
    | _ => s
  match s.refreshPanel with
  | (.ok _, s) => (answer.mapError .effect, s)
  | (.error e, s) => (.error (.panel e), s)

/-- Change the interval by some milliseconds, within the range. -/
def nudgeSpeed (s : Session R σ) (ms : Int) : Except SessionError (EditAction R) × Session R σ :=
  s.edit "/effect/speed" (.ofNat (s.range.clamp (Scalar.ofNat s.speed + Scalar.ofInt ms : R)))

omit σ [Effect R σ] in
/-- A whole number as an integer, any other as a float. -/
def numberValue (x : R) : Json R :=
  if Scalar.trunc x == x && Scalar.abs x < Scalar.ofNat (2 ^ 63) then
    .int (Scalar.toIntIn (-(2 ^ 63)) (2 ^ 63 - 1) x)
  else .ofScalar x

omit [Effect R σ] in
/-- The number that a control moves from. -/
def current (s : Session R σ) (c : Control R) : R :=
  ((s.state.get? c.path).bind Json.asNumber?).getD c.min

/-- Move a control by a number of its steps. -/
def adjustControl (s : Session R σ) (index : Nat) (steps : Int) :
    Except SessionError (EditAction R) × Session R σ :=
  match s.controls[index]? with
  | none => (.error (.noControl index), s)
  | some c => s.edit c.path (numberValue (c.adjust (s.current c) steps))

/-- Start an idle machine; stop any other. -/
def toggleRun (s : Session R σ) : Except EffectError Status × Session R σ :=
  if s.status = .idle then
    let s := { s with scheduler := s.scheduler.start.2 }
    (.ok s.status, s)
  else
    let (answer, scheduler) := s.scheduler.stop
    (answer.map fun _ => scheduler.status, { s with scheduler })

omit [Scalar R] [Effect R σ] in
/-- Between running and paused. -/
def togglePause (s : Session R σ) : Bool × Session R σ :=
  let (changed, scheduler) := s.scheduler.togglePause
  (changed, { s with scheduler })

omit [Scalar R] in
/-- Let time pass for nobody but the machine. -/
def elapse (s : Session R σ) (ms : Nat) : Session R σ :=
  { s with scheduler := (s.scheduler.advance ms).collect.2 }

omit [Scalar R] in
/-- Stop the machine for good. -/
def close (s : Session R σ) : Except EffectError Unit × Session R σ :=
  let (answer, scheduler) := s.scheduler.stop
  (answer, { s with scheduler })

end Session
end LedStrip
