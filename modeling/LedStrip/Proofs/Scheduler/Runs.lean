import LedStrip.Proofs.Effect.Calls
import LedStrip.Scheduler.Basic

/-!
# Runs of a scheduler

`Scheduler.Op` lists what a caller can do with a scheduler and `Scheduler.apply` does it.
`Change` lists what that can amount to and `change_apply` says that there is nothing else; what an
operation preserves is read off its cases.

An operation, and a tick as well, does one of three things to the timer: it keeps it, cancels it or
sets a new one.  `apply_of_sets`, `apply_of_cancels` and `apply_of_quiet` say which one it is,
`fire_of_not_halts` and `fire_of_halts` say the same of a timer that fires; what follows about
timers rests on these five.
-/

namespace LedStrip.Scheduler

/-- One operation on a scheduler. -/
inductive Op (R : Type) where
  | start
  | pause
  | resume
  | togglePause
  | stop
  | setSpeed (ms : Nat)
  | setConfig (key : String) (v : Json R)
  | setPolicy (policy : TickPolicy)
  | subscribe
  | unsubscribe (id : Nat)
  | takeErrors
  | dropReceiver (receiver : Nat)

section Definitions

variable {R σ : Type} [Scalar R] [Effect R σ]

/-- The scheduler after an operation. -/
def apply (s : Scheduler R σ) : Op R → Scheduler R σ
  | .start => s.start.2
  | .pause => s.pause.2
  | .resume => s.resume.2
  | .togglePause => s.togglePause.2
  | .stop => s.stop.2
  | .setSpeed ms => s.setSpeed ms
  | .setConfig key v => (s.setConfig key v).2
  | .setPolicy policy => s.setPolicy policy
  | .subscribe => s.subscribe.2
  | .unsubscribe id => (s.unsubscribe id).2
  | .takeErrors => s.takeErrors.2
  | .dropReceiver receiver => s.dropReceiver receiver

/-- Whether an operation sets a timer: it starts or resumes the machine, or changes the interval of
a running one. -/
def Op.Sets (s : Scheduler R σ) : Op R → Prop
  | .start => s.status = .idle
  | .resume | .togglePause => s.status = .paused
  | .setSpeed _ => s.status = .running
  | .setConfig key v => s.status = .running ∧ (s.machine.setConfig key v).2.speed ≠ s.speed
  | _ => False

omit [Scalar R] [Effect R σ] in
/-- Whether an operation cancels the timer for good: it pauses a running machine or stops it. -/
def Op.Cancels (s : Scheduler R σ) : Op R → Prop
  | .pause | .togglePause => s.status = .running
  | .stop => True
  | _ => False

/-- Whether an operation is a request to start, pause or resume, which the status may refuse. -/
def Op.isRequest : Op R → Bool
  | .start | .pause | .resume | .togglePause => true
  | _ => false

/-- The call that an operation makes to set the interval or a parameter. -/
def Op.setting? : Op R → Option (Machine.Call R)
  | .setSpeed ms => some (.setSpeed ms)
  | .setConfig key v => some (.setConfig key v)
  | _ => none

/-- **What an operation does**, one case for each way. -/
inductive Change (s : Scheduler R σ) : Op R → Scheduler R σ → Prop
  | refused {op : Op R} (hop : op.isRequest = true) (hs : ¬ op.Sets s) (hc : ¬ op.Cancels s) :
      Change s op s
  | run {op : Op R} (hop : op.isRequest = true) (hs : op.Sets s) :
      Change s op { s with machine := { s.machine with status := .running },
                           lastError := none }.setTimer.notifyStatus
  | pause {op : Op R} (hop : op.isRequest = true) (hc : op.Cancels s) :
      Change s op { s with machine := { s.machine with status := .paused } }.cancelTimer.notifyStatus
  | stop : Change s .stop { s.cancelTimer with machine := s.machine.call .stop }.notifyStatus
  | adjust {op : Op R} {c : Machine.Call R} (hop : op.setting? = some c) (hs : ¬ op.Sets s) :
      Change s op { s with machine := s.machine.call c }
  | reschedule {op : Op R} {c : Machine.Call R} (hop : op.setting? = some c) (hs : op.Sets s) :
      Change s op { s with machine := s.machine.call c }.setTimer
  | setPolicy (policy : TickPolicy) : Change s (.setPolicy policy) (s.setPolicy policy)
  | subscribe : Change s .subscribe s.subscribe.2
  | unsubscribe (id : Nat) : Change s (.unsubscribe id) (s.unsubscribe id).2
  | takeErrors : Change s .takeErrors s.takeErrors.2
  | dropReceiver (receiver : Nat) : Change s (.dropReceiver receiver) (s.dropReceiver receiver)

omit [Scalar R] in
/-- Whether a tick would halt the machine now: it fails, and errors halt. -/
def Halts (s : Scheduler R σ) : Prop := s.policy = .halt ∧ ∃ e, s.machine.tick.1 = .error e

end Definitions

/-! ### The three changes of a timer -/

section Changes

variable {R σ : Type}

/-- The timer stays, except perhaps for its due time. -/
structure TimerKept (s s' : Scheduler R σ) : Prop where
  generation : s'.generation = s.generation
  timer : ∃ due : Timer → Option Nat, s'.timer = s.timer.map fun t => { t with due := due t }
  status : s'.status = s.status
  speed : s.status = .running → s'.speed = s.speed

/-- There is no timer any more, and the machine does not run. -/
structure TimerCancelled (s s' : Scheduler R σ) : Prop where
  generation : s'.generation = s.generation + 1
  timer : s'.timer = none
  status : s'.status ≠ .running

/-- There is a new timer for the interval of the machine, which runs. -/
structure TimerSet (s s' : Scheduler R σ) : Prop where
  generation : s'.generation = s.generation + 1
  timer : s'.timer = some ⟨s'.generation, s'.speed, some (s'.now + s'.speed)⟩
  status : s'.status = .running

theorem TimerKept.of_eq {s s' : Scheduler R σ} (generation : s'.generation = s.generation)
    (timer : s'.timer = s.timer) (status : s'.status = s.status)
    (speed : s.status = .running → s'.speed = s.speed) : TimerKept s s' :=
  ⟨generation, ⟨Timer.due, by rw [timer]; simp⟩, status, speed⟩

end Changes

/-! ### Operations -/

section Operations

variable {R σ : Type} {s : Scheduler R σ}

theorem start_of_idle (h : s.status = .idle) :
    s.start = (true,
      { s with machine := { s.machine with status := .running },
               lastError := none }.setTimer.notifyStatus) := by
  unfold start Machine.start
  rw [Machine.transition_of_eq _ h]

theorem start_of_not_idle (h : s.status ≠ .idle) : s.start = (false, s) := by
  unfold start Machine.start
  rw [Machine.transition_of_ne _ h]

theorem pause_of_running (h : s.status = .running) :
    s.pause = (true,
      { s with machine := { s.machine with status := .paused } }.cancelTimer.notifyStatus) := by
  unfold pause Machine.pause
  rw [Machine.transition_of_eq _ h]

theorem pause_of_not_running (h : s.status ≠ .running) : s.pause = (false, s) := by
  unfold pause Machine.pause
  rw [Machine.transition_of_ne _ h]

theorem resume_of_paused (h : s.status = .paused) :
    s.resume = (true,
      { s with machine := { s.machine with status := .running },
               lastError := none }.setTimer.notifyStatus) := by
  unfold resume Machine.resume
  rw [Machine.transition_of_eq _ h]

theorem resume_of_not_paused (h : s.status ≠ .paused) : s.resume = (false, s) := by
  unfold resume Machine.resume
  rw [Machine.transition_of_ne _ h]

theorem togglePause_of_running (h : s.status = .running) : s.togglePause = s.pause := by
  unfold togglePause; rw [h]

theorem togglePause_of_paused (h : s.status = .paused) : s.togglePause = s.resume := by
  unfold togglePause; rw [h]

theorem togglePause_of_idle (h : s.status = .idle) : s.togglePause = (false, s) := by
  unfold togglePause; rw [h]

theorem setSpeed_of_running (h : s.status = .running) (ms : Nat) :
    s.setSpeed ms = { s with machine := s.machine.setSpeed ms }.setTimer := if_pos h

theorem setSpeed_of_not_running (h : s.status ≠ .running) (ms : Nat) :
    s.setSpeed ms = { s with machine := s.machine.setSpeed ms } := if_neg h

variable [Scalar R] [Effect R σ]

/-- An accepted or refused parameter that leaves the interval of a running machine alone only
changes the machine. -/
theorem setConfig_of_kept {key : String} {v : Json R}
    (h : ¬ ((s.machine.setConfig key v).2.speed ≠ s.speed ∧ s.status = .running)) :
    (s.setConfig key v).2 = { s with machine := (s.machine.setConfig key v).2 } := by
  unfold setConfig
  rcases hc : s.machine.setConfig key v with ⟨answer, m⟩
  have hm : m.status = s.status := by
    have := Machine.status_setConfig s.machine key v
    rwa [hc] at this
  cases answer with
  | error e => rfl
  | ok _ =>
    rw [hc] at h
    exact if_neg fun hr => h ⟨hr.1, hm.symm.trans hr.2⟩

theorem setConfig_of_changed {key : String} {v : Json R}
    (hs : (s.machine.setConfig key v).2.speed ≠ s.speed) (hr : s.status = .running) :
    (s.setConfig key v).2 = { s with machine := (s.machine.setConfig key v).2 }.setTimer := by
  unfold setConfig
  rcases hc : s.machine.setConfig key v with ⟨answer, m⟩
  have hm : m.status = s.status := by
    have := Machine.status_setConfig s.machine key v
    rwa [hc] at this
  cases answer with
  | error e =>
    have := Machine.speed_setConfig_of_error (e := e) (by rw [hc])
    exact absurd this hs
  | ok _ =>
    rw [hc] at hs
    exact if_pos ⟨hs, hm.trans hr⟩

/-- Some case applies to every operation. -/
theorem exists_change (s : Scheduler R σ) (op : Op R) : ∃ s', Change s op s' := by
  by_cases hs : op.Sets s
  · cases op with
    | setSpeed ms => exact ⟨_, .reschedule rfl hs⟩
    | setConfig key v => exact ⟨_, .reschedule rfl hs⟩
    | start | resume | togglePause => exact ⟨_, .run rfl hs⟩
    | _ => exact hs.elim
  · by_cases hc : op.Cancels s
    · cases op with
      | pause | togglePause => exact ⟨_, .pause rfl hc⟩
      | stop => exact ⟨_, .stop⟩
      | _ => exact hc.elim
    · cases op with
      | start | pause | resume | togglePause => exact ⟨_, .refused rfl hs hc⟩
      | stop => exact absurd trivial hc
      | setSpeed ms => exact ⟨_, .adjust rfl hs⟩
      | setConfig key v => exact ⟨_, .adjust rfl hs⟩
      | setPolicy policy => exact ⟨_, .setPolicy policy⟩
      | subscribe => exact ⟨_, .subscribe⟩
      | unsubscribe id => exact ⟨_, .unsubscribe id⟩
      | takeErrors => exact ⟨_, .takeErrors⟩
      | dropReceiver receiver => exact ⟨_, .dropReceiver receiver⟩

theorem apply_of_refused {op : Op R} (hop : op.isRequest = true) (hs : ¬ op.Sets s)
    (hc : ¬ op.Cancels s) : s.apply op = s := by
  cases op with
  | start => exact congrArg Prod.snd (start_of_not_idle hs)
  | pause => exact congrArg Prod.snd (pause_of_not_running hc)
  | resume => exact congrArg Prod.snd (resume_of_not_paused hs)
  | togglePause =>
    refine congrArg Prod.snd (togglePause_of_idle ?_)
    rcases h : s.status with _ | _ | _
    · rfl
    · exact absurd h hc
    · exact absurd h hs
  | _ => cases hop

theorem apply_of_run {op : Op R} (hop : op.isRequest = true) (hs : op.Sets s) :
    s.apply op = { s with machine := { s.machine with status := .running },
                          lastError := none }.setTimer.notifyStatus := by
  cases op with
  | start => exact congrArg Prod.snd (start_of_idle hs)
  | resume => exact congrArg Prod.snd (resume_of_paused hs)
  | togglePause =>
    exact congrArg Prod.snd ((togglePause_of_paused hs).trans (resume_of_paused hs))
  | pause => exact hs.elim
  | _ => cases hop

theorem apply_of_pause {op : Op R} (hop : op.isRequest = true) (hc : op.Cancels s) :
    s.apply op =
      { s with machine := { s.machine with status := .paused } }.cancelTimer.notifyStatus := by
  cases op with
  | pause => exact congrArg Prod.snd (pause_of_running hc)
  | togglePause =>
    exact congrArg Prod.snd ((togglePause_of_running hc).trans (pause_of_running hc))
  | start | resume => exact hc.elim
  | _ => cases hop

theorem apply_of_adjust {op : Op R} {c : Machine.Call R} (hop : op.setting? = some c)
    (hs : ¬ op.Sets s) : s.apply op = { s with machine := s.machine.call c } := by
  cases op with
  | setSpeed ms => cases hop; exact setSpeed_of_not_running hs ms
  | setConfig key v => cases hop; exact setConfig_of_kept fun h => hs ⟨h.2, h.1⟩
  | _ => cases hop

theorem apply_of_reschedule {op : Op R} {c : Machine.Call R} (hop : op.setting? = some c)
    (hs : op.Sets s) : s.apply op = { s with machine := s.machine.call c }.setTimer := by
  cases op with
  | setSpeed ms => cases hop; exact setSpeed_of_running hs ms
  | setConfig key v => cases hop; exact setConfig_of_changed hs.2 hs.1
  | _ => cases hop

theorem Change.apply_eq {s' : Scheduler R σ} {op : Op R} (h : Change s op s') :
    s.apply op = s' := by
  cases h with
  | refused hop hs hc => exact apply_of_refused hop hs hc
  | run hop hs => exact apply_of_run hop hs
  | pause hop hc => exact apply_of_pause hop hc
  | adjust hop hs => exact apply_of_adjust hop hs
  | reschedule hop hs => exact apply_of_reschedule hop hs
  | _ => rfl

/-- **Every operation does one of these.** -/
theorem change_apply (s : Scheduler R σ) (op : Op R) : Change s op (s.apply op) := by
  obtain ⟨s', h⟩ := exists_change s op
  rwa [h.apply_eq]

theorem Op.Sets.not_cancels {op : Op R} (h : op.Sets s) : ¬ op.Cancels s := by
  cases op with
  | togglePause => exact fun hr => nomatch h.symm.trans hr
  | pause | stop => exact h.elim
  | _ => exact id

/-- Only the interval of a running machine is worth a new timer. -/
theorem Op.Sets.running {op : Op R} {c : Machine.Call R} (hop : op.setting? = some c)
    (h : op.Sets s) : s.status = .running := by
  cases op with
  | setSpeed ms => exact h
  | setConfig key v => exact h.1
  | _ => cases hop

omit [Scalar R] [Effect R σ] in
/-- Only a running machine can be paused. -/
theorem Op.Cancels.running {op : Op R} (hop : op.isRequest = true) (h : op.Cancels s) :
    s.status = .running := by
  cases op with
  | pause | togglePause => exact h
  | start | resume => exact h.elim
  | _ => cases hop

omit [Scalar R] [Effect R σ] in
theorem Op.not_cancels_of_setting {op : Op R} {c : Machine.Call R} (hop : op.setting? = some c) :
    ¬ op.Cancels s := by
  cases op with
  | setSpeed ms => exact id
  | setConfig key v => exact id
  | _ => cases hop

theorem status_setting {op : Op R} {c : Machine.Call R} (hop : op.setting? = some c)
    (m : Machine R σ) : (m.call c).status = m.status := by
  cases op with
  | setSpeed ms => cases hop; rfl
  | setConfig key v => cases hop; exact Machine.status_setConfig m key v
  | _ => cases hop

theorem speed_setting {op : Op R} {c : Machine.Call R} (hop : op.setting? = some c)
    (hs : ¬ op.Sets s) (hr : s.status = .running) : (s.machine.call c).speed = s.speed := by
  cases op with
  | setSpeed ms => exact absurd hr hs
  | setConfig key v => cases hop; exact Decidable.not_not.mp fun hne => hs ⟨hr, hne⟩
  | _ => cases hop

/-- An operation that sets a timer sets one for the interval that the machine has afterwards,
counted from now. -/
theorem apply_of_sets {op : Op R} (h : op.Sets s) :
    TimerSet s (s.apply op) ∧ (s.apply op).now = s.now := by
  have hchange : Change s op (s.apply op) := change_apply s op
  generalize s.apply op = s' at hchange ⊢
  cases hchange with
  | refused _ hs | adjust _ hs => exact absurd h hs
  | run => exact ⟨⟨rfl, rfl, rfl⟩, rfl⟩
  | pause _ hc => exact absurd hc h.not_cancels
  | reschedule hop => exact ⟨⟨rfl, rfl, (status_setting hop s.machine).trans (h.running hop)⟩, rfl⟩
  | _ => exact h.elim

/-- An operation that cancels the timer leaves none. -/
theorem apply_of_cancels {op : Op R} (h : op.Cancels s) :
    TimerCancelled s (s.apply op) ∧ (s.apply op).now = s.now := by
  have hchange : Change s op (s.apply op) := change_apply s op
  generalize s.apply op = s' at hchange ⊢
  cases hchange with
  | refused _ _ hc => exact absurd h hc
  | run _ hs | reschedule _ hs => exact absurd h hs.not_cancels
  | pause => exact ⟨⟨rfl, rfl, fun hp => by cases hp⟩, rfl⟩
  | stop => exact ⟨⟨rfl, rfl, fun hr => by cases hr⟩, rfl⟩
  | adjust hop => exact absurd h (Op.not_cancels_of_setting hop)
  | _ => exact h.elim

/-- Any other operation leaves the timer as it is. -/
theorem apply_of_quiet {op : Op R} (hs : ¬ op.Sets s) (hc : ¬ op.Cancels s) :
    (s.apply op).generation = s.generation ∧ (s.apply op).timer = s.timer ∧
      (s.apply op).now = s.now ∧ (s.apply op).status = s.status ∧
      (s.status = .running → (s.apply op).speed = s.speed) := by
  have hchange : Change s op (s.apply op) := change_apply s op
  generalize s.apply op = s' at hchange ⊢
  cases hchange with
  | run _ h | reschedule _ h => exact absurd h hs
  | pause _ h => exact absurd h hc
  | stop => exact absurd trivial hc
  | adjust hop => exact ⟨rfl, rfl, rfl, status_setting hop s.machine, speed_setting hop hs⟩
  | _ => exact ⟨rfl, rfl, rfl, rfl, fun _ => rfl⟩

/-- An operation keeps the timer, cancels it or sets a new one. -/
theorem apply_timer (s : Scheduler R σ) (op : Op R) :
    TimerKept s (s.apply op) ∨ TimerCancelled s (s.apply op) ∨ TimerSet s (s.apply op) := by
  by_cases hs : op.Sets s
  · exact .inr (.inr (apply_of_sets hs).1)
  · by_cases hc : op.Cancels s
    · exact .inr (.inl (apply_of_cancels hc).1)
    · obtain ⟨hg, ht, -, hst, hsp⟩ := apply_of_quiet hs hc
      exact .inl (.of_eq hg ht hst hsp)

end Operations

/-! ### Ticks -/

section Ticks

variable {R σ : Type} {s : Scheduler R σ}

/-- Sending an error touches the receiver and the outbox only, and the outbox gets at most that
error. -/
theorem sendError_eq (s : Scheduler R σ) (e : EffectError) :
    ∃ receiver outbox, s.sendError e = { s with receiver, outbox } ∧
      (outbox = s.outbox ∨ ∃ r, outbox = s.outbox.push (.error r e)) := by
  unfold sendError
  rcases hr : s.receiver with _ | r
  · exact ⟨s.receiver, s.outbox, rfl, .inl rfl⟩
  · by_cases hd : r ∈ s.dropped
    · exact ⟨none, s.outbox, if_pos hd, .inl rfl⟩
    · exact ⟨some r, _, if_neg hd, .inr ⟨r, rfl⟩⟩

/-- An error that does not halt is noted, perhaps sent, and changes nothing else. -/
theorem onTickError_of_ne_halt (h : s.policy ≠ .halt) (e : EffectError) :
    ∃ receiver outbox, s.onTickError e = (true, { s with lastError := some e, receiver, outbox }) ∧
      (outbox = s.outbox ∨ ∃ r, outbox = s.outbox.push (.error r e)) := by
  obtain ⟨receiver, outbox, hs, ho⟩ := sendError_eq s e
  unfold onTickError
  rcases hp : s.policy with _ | _ | _
  · exact absurd hp h
  · exact ⟨s.receiver, s.outbox, rfl, .inl rfl⟩
  · exact ⟨receiver, outbox, by simp only [hs, hp], ho⟩

theorem onTickError_of_halt (h : s.policy = .halt) (e : EffectError) :
    s.onTickError e =
      (false, { s.cancelTimer with machine := s.machine.pause.2,
                                   lastError := some e }.notifyStatus) := by
  unfold onTickError; rw [h]

variable [Effect R σ]

theorem runTick_of_ok {m : Machine R σ} (h : s.machine.tick = (.ok true, m)) :
    s.runTick = (true, { s with machine := m }.deliverFrame) := by
  unfold runTick; rw [h]

theorem runTick_of_idle {m : Machine R σ} (h : s.machine.tick = (.ok false, m)) :
    s.runTick = (false, { s with machine := m }) := by
  unfold runTick; rw [h]

theorem runTick_of_error {m : Machine R σ} {e : EffectError} (h : s.machine.tick = (.error e, m)) :
    s.runTick = { s with machine := m }.onTickError e := by
  unfold runTick; rw [h]

/-- **A tick that does not halt** moves the machine on and leaves all but the messages to observers
alone. -/
theorem runTick_of_not_halts (hr : s.status = .running) (hh : ¬ s.Halts) :
    ∃ lastError receiver outbox,
      s.runTick = (true, { s with machine := s.machine.tick.2, lastError, receiver, outbox }) := by
  rcases Machine.tick_of_running hr with ⟨f, -, ht⟩ | ⟨e, ht⟩
  · rw [runTick_of_ok ht, ht]
    exact ⟨_, _, _, rfl⟩
  · have hp : s.policy ≠ .halt := fun hp => hh ⟨hp, e, by rw [ht]⟩
    have ht' : s.machine.tick = (.error e, s.machine.tick.2) := Prod.ext (by rw [ht]) rfl
    obtain ⟨receiver, outbox, he, -⟩ :=
      onTickError_of_ne_halt (s := { s with machine := s.machine.tick.2 }) hp e
    exact ⟨some e, receiver, outbox, (runTick_of_error ht').trans he⟩

/-- **A tick that halts** cancels the timer and pauses the machine. -/
theorem runTick_of_halts (hr : s.status = .running) (hh : s.Halts) :
    ∃ e, s.machine.tick.1 = .error e ∧ s.runTick =
      (false, { s.cancelTimer with
        machine := { s.machine.tick.2 with status := .paused },
        lastError := some e }.notifyStatus) := by
  obtain ⟨hp, e, he⟩ := hh
  have ht : s.machine.tick = (.error e, s.machine.tick.2) := Prod.ext he rfl
  have hpause : s.machine.tick.2.pause.2 = { s.machine.tick.2 with status := .paused } :=
    congrArg Prod.snd (Machine.transition_of_eq .paused ((Machine.status_tick s.machine).trans hr))
  refine ⟨e, he, ?_⟩
  rw [runTick_of_error ht, onTickError_of_halt (s := { s with machine := s.machine.tick.2 }) hp,
    hpause]
  rfl

/-- When the timer fires and the tick does not halt, the timer is due again one period later. -/
theorem fire_of_not_halts (hr : s.status = .running) (hh : ¬ s.Halts) {t : Timer}
    (hg : t.generation = s.generation) :
    ∃ lastError receiver outbox, s.fire t =
      { s with machine := s.machine.tick.2, lastError, receiver, outbox,
               timer := s.timer.map fun t => { t with due := some (s.now + t.period) } } := by
  obtain ⟨lastError, receiver, outbox, h⟩ := runTick_of_not_halts hr hh
  refine ⟨lastError, receiver, outbox, ?_⟩
  unfold fire wake
  rw [if_pos hg.symm, h]
  rfl

/-- When the timer fires and the tick halts, there is no timer any more. -/
theorem fire_of_halts (hr : s.status = .running) (hh : s.Halts) {t : Timer}
    (hg : t.generation = s.generation) : ∃ e, s.machine.tick.1 = .error e ∧ s.fire t =
      { s.cancelTimer with
        machine := { s.machine.tick.2 with status := .paused },
        lastError := some e }.notifyStatus := by
  obtain ⟨e, he, h⟩ := runTick_of_halts hr hh
  refine ⟨e, he, ?_⟩
  unfold fire wake
  rw [if_pos hg.symm, h]
  rfl

/-- A timer that fires is kept, unless the tick halts; then it is cancelled. -/
theorem fire_timer (hr : s.status = .running) {t : Timer} (hg : t.generation = s.generation) :
    TimerKept s (s.fire t) ∨ TimerCancelled s (s.fire t) := by
  by_cases hh : s.Halts
  · obtain ⟨e, -, he⟩ := fire_of_halts hr hh hg
    rw [he]
    exact .inr ⟨rfl, rfl, fun h => by cases h⟩
  · obtain ⟨_, _, _, he⟩ := fire_of_not_halts hr hh hg
    rw [he]
    exact .inl ⟨rfl, ⟨fun t => some (s.now + t.period), rfl⟩, Machine.status_tick s.machine,
      fun _ => Machine.speed_tick s.machine⟩

/-- A timer that was set at some time wakes up. -/
def wakeUp (s : Scheduler R σ) (t : Timer) : Scheduler R σ :=
  if t.generation = s.generation then s.fire t else (s.wake t.generation).2

theorem wakeUp_of_stale {t : Timer} (h : t.generation ≠ s.generation) : s.wakeUp t = s := by
  unfold wakeUp wake
  rw [if_neg h, if_neg fun hg => h hg.symm]

theorem wakeUp_of_current {t : Timer} (h : t.generation = s.generation) :
    s.wakeUp t = s.fire t := if_pos h

end Ticks

/-! ### Histories -/

/-- A scheduler with every timer that it has ever set, oldest first. -/
structure History (R σ : Type) where
  scheduler : Scheduler R σ
  timers : List Timer := []

/-- What can happen next: an operation, time that passes, or the wake-up of a timer that was set at
some time.  A timer may wake up late, long after it was cancelled. -/
inductive Step (R : Type) where
  | op (op : Op R)
  | elapse (ms : Nat)
  | wake (i : Nat)

/-- The timer that was set between two states, if one was. -/
def newTimer? {R σ : Type} (s s' : Scheduler R σ) : Option Timer :=
  if s'.generation = s.generation then none else s'.timer

namespace History

variable {R σ : Type}

/-- A scheduler for a machine, before anything has happened. -/
def init (m : Machine R σ) (policy : TickPolicy) : History R σ := ⟨create m policy, []⟩

/-- Go on to another state of the scheduler. -/
def goOn (h : History R σ) (s : Scheduler R σ) : History R σ :=
  ⟨s, h.timers ++ (newTimer? h.scheduler s).toList⟩

theorem goOn_of_eq {h : History R σ} {s : Scheduler R σ}
    (hg : s.generation = h.scheduler.generation) : h.goOn s = ⟨s, h.timers⟩ := by
  unfold goOn newTimer?
  rw [if_pos hg]; simp

variable [Scalar R] [Effect R σ]

def step (h : History R σ) : Step R → History R σ
  | .op op => h.goOn (h.scheduler.apply op)
  | .elapse ms => h.goOn { h.scheduler with now := h.scheduler.now + ms }
  | .wake i =>
    match h.timers[i]? with
    | some t => h.goOn (h.scheduler.wakeUp t)
    | none => h

def run (h : History R σ) (steps : List (Step R)) : History R σ := steps.foldl step h

@[simp] theorem run_nil (h : History R σ) : h.run [] = h := rfl

@[simp] theorem run_cons (h : History R σ) (a : Step R) (steps : List (Step R)) :
    h.run (a :: steps) = (h.step a).run steps := rfl

theorem run_append (h : History R σ) (steps more : List (Step R)) :
    h.run (steps ++ more) = (h.run steps).run more := List.foldl_append

theorem step_wake {h : History R σ} {i : Nat} {t : Timer} (ht : h.timers[i]? = some t) :
    h.step (.wake i) = h.goOn (h.scheduler.wakeUp t) := by
  simp only [step, ht]

theorem step_wake_none {h : History R σ} {i : Nat} (ht : h.timers[i]? = none) :
    h.step (.wake i) = h := by
  simp only [step, ht]

/-- A stale timer that wakes up changes nothing. -/
theorem step_wake_of_stale {h : History R σ} {i : Nat} {t : Timer} (ht : h.timers[i]? = some t)
    (hg : t.generation ≠ h.scheduler.generation) : h.step (.wake i) = h := by
  rw [step_wake ht, wakeUp_of_stale hg, goOn_of_eq rfl]

end History

end LedStrip.Scheduler
