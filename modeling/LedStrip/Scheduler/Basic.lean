import LedStrip.Effect.Machine

/-!
# The scheduler

A scheduler drives one machine with a periodic timer.  A timer carries the generation in which it was set; setting or
cancelling one starts a new generation, so a wake-up of an older timer finds that it is stale and does nothing.

Everything a scheduler tells its observers goes through its `outbox`, in order: frames to subscribers, statuses to
watchers, errors to the receiver that was taken last.  Time is the virtual clock `now`, in milliseconds.
-/

namespace LedStrip

/-- What happens when a tick fails. -/
inductive TickPolicy where
  /-- Cancel the timer and pause the machine. -/
  | halt
  /-- Drop the frame and go on. -/
  | skipFrame
  /-- Send the error to the receiver and go on. -/
  | propagate
deriving DecidableEq, Repr, Inhabited

namespace TickPolicy

def name : TickPolicy → String
  | halt => "halt"
  | skipFrame => "skip-frame"
  | propagate => "propagate"

/-- A policy by its name. -/
def ofName? : String → Option TickPolicy
  | "halt" => some halt
  | "skip-frame" => some skipFrame
  | "propagate" => some propagate
  | _ => none

/-- A policy as a user writes it; `skip` is short for `skip-frame`. -/
def parse (s : String) : Except String TickPolicy :=
  match ofName? s with
  | some p => .ok p
  | none => if s = "skip" then .ok skipFrame else .error s!"unknown tick error policy: {s}"

end TickPolicy

/-- One message to an observer. -/
inductive Event where
  | frame (subscriber : Nat) (frame : Frame)
  | status (s : Status)
  | error (receiver : Nat) (e : EffectError)
deriving DecidableEq

namespace Event

/-- The subscriber that a frame went to, with the frame. -/
def frame? : Event → Option (Nat × Frame)
  | frame subscriber f => some (subscriber, f)
  | _ => none

/-- The receiver that an error went to, with the error. -/
def error? : Event → Option (Nat × EffectError)
  | error receiver e => some (receiver, e)
  | _ => none

def isStatus : Event → Bool
  | status _ => true
  | _ => false

end Event

/-- A timer that is set; one that will not fire again has no due time. -/
structure Timer where
  generation : Nat
  period : Nat
  due : Option Nat
deriving DecidableEq, Repr

structure Scheduler (R σ : Type) where
  machine : Machine R σ
  policy : TickPolicy
  now : Nat := 0
  generation : Nat := 0
  timer : Option Timer := none
  subscribers : List Nat := []
  nextSubscription : Nat := 0
  lastError : Option EffectError := none
  /-- Where errors are sent. -/
  receiver : Option Nat := none
  nextReceiver : Nat := 0
  /-- Receivers that no longer listen. -/
  dropped : List Nat := []
  /-- The status that watchers see. -/
  shownStatus : Status := machine.status
  outbox : Array Event := #[]

namespace Scheduler

variable {R σ : Type}

def create (machine : Machine R σ) (policy : TickPolicy) : Scheduler R σ := { machine, policy }

def status (s : Scheduler R σ) : Status := s.machine.status

def speed (s : Scheduler R σ) : Nat := s.machine.speed

def leds (s : Scheduler R σ) : Frame := s.machine.leds

def isTimerActive (s : Scheduler R σ) : Bool := s.timer.isSome

/-! ### Timer and notifications -/

def cancelTimer (s : Scheduler R σ) : Scheduler R σ :=
  { s with generation := s.generation + 1, timer := none }

/-- Set a timer for the interval of the machine, counted from now. -/
def setTimer (s : Scheduler R σ) : Scheduler R σ :=
  let s := s.cancelTimer
  { s with timer := some ⟨s.generation, s.machine.speed, some (s.now + s.machine.speed)⟩ }

def notifyStatus (s : Scheduler R σ) : Scheduler R σ :=
  { s with shownStatus := s.machine.status, outbox := s.outbox.push (.status s.machine.status) }

/-- Hand the frame on the strip to every subscriber. -/
def deliverFrame (s : Scheduler R σ) : Scheduler R σ :=
  { s with outbox := s.subscribers.foldl (fun out id => out.push (.frame id s.machine.leds)) s.outbox }

/-- Send an error to the receiver, or forget a receiver that no longer listens. -/
def sendError (s : Scheduler R σ) (e : EffectError) : Scheduler R σ :=
  match s.receiver with
  | none => s
  | some r =>
    if r ∈ s.dropped then { s with receiver := none }
    else { s with outbox := s.outbox.push (.error r e) }

/-! ### Ticks -/

/-- React to a failed tick; the answer says whether the timer goes on. -/
def onTickError (s : Scheduler R σ) (e : EffectError) : Bool × Scheduler R σ :=
  match s.policy with
  | .halt =>
    let s := { s.cancelTimer with machine := s.machine.pause.2, lastError := some e }
    (false, s.notifyStatus)
  | .skipFrame => (true, { s with lastError := some e })
  | .propagate => (true, { s.sendError e with lastError := some e })

variable [Effect R σ]

/-- One tick of the machine; the answer says whether the timer goes on. -/
def runTick (s : Scheduler R σ) : Bool × Scheduler R σ :=
  match s.machine.tick with
  | (.ok true, m) => (true, { s with machine := m }.deliverFrame)
  | (.ok false, m) => (false, { s with machine := m })
  | (.error e, m) => { s with machine := m }.onTickError e

/-- A timer of some generation wakes up; a stale one finds that and ends. -/
def wake (generation : Nat) (s : Scheduler R σ) : Bool × Scheduler R σ :=
  if s.generation = generation then s.runTick else (false, s)

/-- The timer that is set fires, and is set for the next period if it goes on. -/
def fire (s : Scheduler R σ) (t : Timer) : Scheduler R σ :=
  let (goesOn, s) := s.wake t.generation
  let rearm (t : Timer) : Timer := { t with due := if goesOn then some (s.now + t.period) else none }
  { s with timer := s.timer.map rearm }

/-- Fire every timer that is due up to `target`, at most `fuel` of them, then set the clock. -/
def advanceTo (target : Nat) : Nat → Scheduler R σ → Scheduler R σ
  | 0, s => { s with now := target }
  | fuel + 1, s =>
    match s.timer with
    | some t =>
      match t.due with
      | some due =>
        if due ≤ target then advanceTo target fuel ({ s with now := due }.fire t)
        else { s with now := target }
      | none => { s with now := target }
    | none => { s with now := target }

/-- Let time pass; a tick that is due at the end of it happens.  A period is at least a millisecond, so the number of
ticks is at most the number of milliseconds. -/
def advance (ms : Nat) (s : Scheduler R σ) : Scheduler R σ := advanceTo (s.now + ms) ms s

/-! ### Operations -/

omit [Effect R σ] in
/-- From idle to running. -/
def start (s : Scheduler R σ) : Bool × Scheduler R σ :=
  match s.machine.start with
  | (true, m) => (true, { s with machine := m, lastError := none }.setTimer.notifyStatus)
  | (false, _) => (false, s)

omit [Effect R σ] in
/-- From running to paused. -/
def pause (s : Scheduler R σ) : Bool × Scheduler R σ :=
  match s.machine.pause with
  | (true, m) => (true, { s with machine := m }.cancelTimer.notifyStatus)
  | (false, _) => (false, s)

omit [Effect R σ] in
/-- From paused to running. -/
def resume (s : Scheduler R σ) : Bool × Scheduler R σ :=
  match s.machine.resume with
  | (true, m) => (true, { s with machine := m, lastError := none }.setTimer.notifyStatus)
  | (false, _) => (false, s)

omit [Effect R σ] in
/-- Between running and paused. -/
def togglePause (s : Scheduler R σ) : Bool × Scheduler R σ :=
  match s.status with
  | .running => s.pause
  | .paused => s.resume
  | .idle => (false, s)

/-- Back to idle with a dark strip. -/
def stop (s : Scheduler R σ) : Except EffectError Unit × Scheduler R σ :=
  let s := s.cancelTimer
  let (answer, m) := s.machine.stop
  (answer, { s with machine := m }.notifyStatus)

omit [Effect R σ] in
/-- Set the interval; a running timer starts anew. -/
def setSpeed (s : Scheduler R σ) (ms : Nat) : Scheduler R σ :=
  let s := { s with machine := s.machine.setSpeed ms }
  if s.status = .running then s.setTimer else s

/-- Set a parameter; a running timer starts anew if the interval changed. -/
def setConfig [Scalar R] (s : Scheduler R σ) (key : String) (v : Json R) :
    Except EffectError Unit × Scheduler R σ :=
  match s.machine.setConfig key v with
  | (.error e, m) => (.error e, { s with machine := m })
  | (.ok _, m) =>
    let changed := m.speed ≠ s.machine.speed
    let s := { s with machine := m }
    (.ok (), if changed ∧ s.status = .running then s.setTimer else s)

/-! ### Observers -/

omit [Effect R σ] in
/-- A new subscriber; its number was never used before. -/
def subscribe (s : Scheduler R σ) : Nat × Scheduler R σ :=
  (s.nextSubscription,
    { s with subscribers := s.subscribers ++ [s.nextSubscription],
             nextSubscription := s.nextSubscription + 1 })

omit [Effect R σ] in
/-- The answer says whether there was such a subscriber. -/
def unsubscribe (s : Scheduler R σ) (id : Nat) : Bool × Scheduler R σ :=
  (s.subscribers.contains id, { s with subscribers := s.subscribers.filter (· != id) })

omit [Effect R σ] in
/-- A new receiver of errors in place of any other. -/
def takeErrors (s : Scheduler R σ) : Nat × Scheduler R σ :=
  (s.nextReceiver, { s with receiver := some s.nextReceiver, nextReceiver := s.nextReceiver + 1 })

omit [Effect R σ] in
/-- A receiver stops listening. -/
def dropReceiver (s : Scheduler R σ) (receiver : Nat) : Scheduler R σ :=
  { s with dropped := receiver :: s.dropped }

omit [Effect R σ] in
def setPolicy (s : Scheduler R σ) (policy : TickPolicy) : Scheduler R σ := { s with policy }

omit [Effect R σ] in
/-- The messages so far, and the scheduler with an empty outbox. -/
def collect (s : Scheduler R σ) : Array Event × Scheduler R σ := (s.outbox, { s with outbox := #[] })

end Scheduler
end LedStrip
