import LedStrip.CommandLine.Report
import LedStrip.Session

/-!
# Runs without a terminal

A headless run prints the frames of a session, one line for each, and a line for each error that it is sent, until it has
printed as many frames as were wanted or a failing tick has halted the machine.  Either way the session is closed then.
`step` lets one period of the machine pass.
-/

namespace LedStrip

structure HeadlessRun (R σ : Type) where
  id : String
  session : Session R σ
  /-- Number of the subscription to frames. -/
  subscriber : Nat
  /-- Number of the receiver of errors. -/
  receiver : Nat
  wanted : Nat
  printed : Nat := 0
  /-- How the run has ended, if it has. -/
  outcome : Option (Except String Unit) := none

namespace HeadlessRun

variable {R σ : Type} [Effect R σ]

/-- A numbered line. -/
def numbered (n : Nat) (text : String) : String := Report.padLeft 4 (toString n) ++ "  " ++ text

/-- Close the session; a reset hook that fails decides, else `result`. -/
def close (r : HeadlessRun R σ) (result : Except String Unit) : HeadlessRun R σ :=
  let (answer, session) := r.session.close
  { r with
    session
    outcome := some <|
      match answer with
      | .error e => .error e.message
      | .ok _ => result }

/-- Close a run that has printed all it should. -/
def closeIfDone (r : HeadlessRun R σ) : HeadlessRun R σ :=
  if r.printed < r.wanted then r else r.close (.ok ())

/-- Take one message of the scheduler. -/
def take (r : HeadlessRun R σ) (e : Event) : List String × HeadlessRun R σ :=
  if r.outcome.isSome then ([], r)
  else
    match e with
    | .frame id frame =>
      if id = r.subscriber then
        ([numbered r.printed frame.toHex], { r with printed := r.printed + 1 }.closeIfDone)
      else ([], r)
    | .error id e =>
      if id = r.receiver then ([numbered r.printed s!"error: {e.message}"], r) else ([], r)
    | .status .paused =>
      let reason := (r.session.scheduler.lastError.map EffectError.message).getD "machine paused"
      ([], r.close (.error s!"{r.id}: {reason}"))
    | .status _ => ([], r)

/-- Take messages in order. -/
def takeAll (r : HeadlessRun R σ) : List Event → List String × HeadlessRun R σ
  | [] => ([], r)
  | e :: rest =>
    let (first, r) := r.take e
    let (others, r) := r.takeAll rest
    (first ++ others, r)

/-- Take what the scheduler has sent since the last time. -/
def takeOutbox (r : HeadlessRun R σ) : List String × HeadlessRun R σ :=
  let (events, scheduler) := r.session.scheduler.collect
  { r with session := { r.session with scheduler } }.takeAll events.toList

/-- Start the machine of a session, under the header of its run. -/
def start (id : String) (session : Session R σ) (wanted : Nat) : List String × HeadlessRun R σ :=
  let (subscriber, scheduler) := session.scheduler.subscribe
  let (receiver, scheduler) := scheduler.takeErrors
  let session := { session with scheduler }
  let header := s!"{session.effectId}: {session.leds.ledCount} LEDs, {session.speed} ms per frame"
  let run : HeadlessRun R σ := { id, session := session.toggleRun.2, subscriber, receiver, wanted }
  ([header], run.closeIfDone)

/-- Let one period pass. -/
def step (r : HeadlessRun R σ) : List String × HeadlessRun R σ :=
  if r.outcome.isSome then ([], r)
  else
    { r with
      session := { r.session with scheduler := r.session.scheduler.advance r.session.speed } }.takeOutbox

/-- Let some periods pass, unless the run ends before. -/
def steps (r : HeadlessRun R σ) : Nat → List String × HeadlessRun R σ
  | 0 => ([], r)
  | n + 1 =>
    if r.outcome.isSome then ([], r)
    else
      let (first, r) := r.step
      let (others, r) := r.steps n
      (first ++ others, r)

end HeadlessRun
end LedStrip
