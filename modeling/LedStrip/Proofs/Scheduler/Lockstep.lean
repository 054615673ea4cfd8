import LedStrip.Proofs.Scheduler.Runs

/-!
# Schedulers in lockstep

Two schedulers are in lockstep when they agree on the timer, the policy and the time and a relation
holds between their machines.  Nothing is said about observers.  If the relation is kept by all
that a scheduler does to its machine (`Machine.Bisimulation`), then lockstep is kept by every
operation (`Lockstep.apply`) and by every timer that wakes up (`Lockstep.fire`, `Lockstep.wakeUp`).
-/

namespace LedStrip

variable {R σ : Type}

/-- Machines that are related look the same to a scheduler, and stay related whatever it does to
both. -/
structure Machine.Bisimulation [Scalar R] [Effect R σ] (r : Machine R σ → Machine R σ → Prop) :
    Prop where
  status {m m' : Machine R σ} : r m m' → m.status = m'.status
  speed {m m' : Machine R σ} : r m m' → m.speed = m'.speed
  answer {m m' : Machine R σ} : r m m' → m.tick.1 = m'.tick.1
  withStatus {m m' : Machine R σ} (st : Status) :
    r m m' → r { m with status := st } { m' with status := st }
  call {m m' : Machine R σ} (c : Machine.Call R) : r m m' → r (m.call c) (m'.call c)

theorem Machine.bisimulation_eq [Scalar R] [Effect R σ] :
    Machine.Bisimulation (R := R) (σ := σ) Eq where
  status h := congrArg Machine.status h
  speed h := congrArg Machine.speed h
  answer h := congrArg (fun m => m.tick.1) h
  withStatus _ h := by rw [h]
  call c h := congrArg (fun m => m.call c) h

namespace Scheduler

/-- Schedulers that agree but for their observers, with machines that `r` relates. -/
structure Lockstep (r : Machine R σ → Machine R σ → Prop) (s s' : Scheduler R σ) : Prop where
  machine : r s.machine s'.machine
  policy : s.policy = s'.policy
  now : s.now = s'.now
  generation : s.generation = s'.generation
  timer : s.timer = s'.timer

namespace Lockstep

variable {r : Machine R σ → Machine R σ → Prop} {s s' : Scheduler R σ}

theorem setNow (h : Lockstep r s s') (time : Nat) :
    Lockstep r { s with now := time } { s' with now := time } :=
  ⟨h.machine, h.policy, rfl, h.generation, h.timer⟩

theorem withMachine (h : Lockstep r s s') {m m' : Machine R σ} (hm : r m m') :
    Lockstep r { s with machine := m } { s' with machine := m' } :=
  ⟨hm, h.policy, h.now, h.generation, h.timer⟩

theorem cancelTimer (h : Lockstep r s s') : Lockstep r s.cancelTimer s'.cancelTimer :=
  ⟨h.machine, h.policy, h.now, congrArg (· + 1) h.generation, rfl⟩

theorem notifyStatus (h : Lockstep r s s') : Lockstep r s.notifyStatus s'.notifyStatus :=
  ⟨h.machine, h.policy, h.now, h.generation, h.timer⟩

variable [Scalar R] [Effect R σ]

theorem setTimer (h : Lockstep r s s') (hr : Machine.Bisimulation r) :
    Lockstep r s.setTimer s'.setTimer := by
  refine ⟨h.machine, h.policy, h.now, congrArg (· + 1) h.generation, ?_⟩
  show some (Timer.mk (s.generation + 1) s.machine.speed (some (s.now + s.machine.speed))) =
    some (Timer.mk (s'.generation + 1) s'.machine.speed (some (s'.now + s'.machine.speed)))
  rw [h.generation, h.now, hr.speed h.machine]

/-! ### Operations -/

theorem sets_iff (h : Lockstep r s s') (hr : Machine.Bisimulation r) (op : Op R) :
    op.Sets s ↔ op.Sets s' := by
  have hstatus : s.status = s'.status := hr.status h.machine
  cases op with
  | setConfig key v =>
    have hspeed : s.speed = s'.speed := hr.speed h.machine
    have hset : (s.machine.setConfig key v).2.speed = (s'.machine.setConfig key v).2.speed :=
      hr.speed (hr.call (.setConfig key v) h.machine)
    simp only [Op.Sets, hstatus, hspeed, hset]
  | _ => simp only [Op.Sets, hstatus]

theorem cancels_iff (h : Lockstep r s s') (hr : Machine.Bisimulation r) (op : Op R) :
    op.Cancels s ↔ op.Cancels s' := by
  have hstatus : s.status = s'.status := hr.status h.machine
  cases op <;> simp only [Op.Cancels, hstatus]

/-- **An operation keeps lockstep**, since it does the same to both. -/
theorem apply (h : Lockstep r s s') (hr : Machine.Bisimulation r) (op : Op R) :
    Lockstep r (s.apply op) (s'.apply op) := by
  have hsets : op.Sets s ↔ op.Sets s' := h.sets_iff hr op
  have hcancels : op.Cancels s ↔ op.Cancels s' := h.cancels_iff hr op
  have hchange : Change s op (s.apply op) := change_apply s op
  generalize s.apply op = t at hchange ⊢
  cases hchange with
  | refused hop hs hc =>
    rw [apply_of_refused hop (mt hsets.mpr hs) (mt hcancels.mpr hc)]
    exact h
  | run hop hs =>
    rw [apply_of_run hop (hsets.mp hs)]
    have hrun := (h.withMachine (hr.withStatus .running h.machine)).setTimer hr
    exact ⟨hrun.machine, hrun.policy, hrun.now, hrun.generation, hrun.timer⟩
  | pause hop hc =>
    rw [apply_of_pause hop (hcancels.mp hc)]
    exact (h.withMachine (hr.withStatus .paused h.machine)).cancelTimer.notifyStatus
  | stop => exact (h.cancelTimer.withMachine (hr.call .stop h.machine)).notifyStatus
  | adjust hop hs =>
    rw [apply_of_adjust hop (mt hsets.mpr hs)]
    exact h.withMachine (hr.call _ h.machine)
  | reschedule hop hs =>
    rw [apply_of_reschedule hop (hsets.mp hs)]
    exact (h.withMachine (hr.call _ h.machine)).setTimer hr
  | setPolicy policy => exact ⟨h.machine, rfl, h.now, h.generation, h.timer⟩
  | _ => exact ⟨h.machine, h.policy, h.now, h.generation, h.timer⟩

/-! ### Ticks -/

theorem onTickError (h : Lockstep r s s') (hr : Machine.Bisimulation r) (e : EffectError) :
    (s.onTickError e).1 = (s'.onTickError e).1 ∧
      Lockstep r (s.onTickError e).2 (s'.onTickError e).2 := by
  by_cases hp : s.policy = .halt
  · rw [onTickError_of_halt hp, onTickError_of_halt (h.policy ▸ hp)]
    refine ⟨rfl, ?_, h.policy, h.now, congrArg (· + 1) h.generation, rfl⟩
    exact hr.call .pause h.machine
  · obtain ⟨_, _, hs, -⟩ := onTickError_of_ne_halt hp e
    obtain ⟨_, _, hs', -⟩ := onTickError_of_ne_halt (h.policy ▸ hp : s'.policy ≠ .halt) e
    rw [hs, hs']
    exact ⟨rfl, h.machine, h.policy, h.now, h.generation, h.timer⟩

theorem runTick (h : Lockstep r s s') (hr : Machine.Bisimulation r) :
    s.runTick.1 = s'.runTick.1 ∧ Lockstep r s.runTick.2 s'.runTick.2 := by
  have hanswer : s.machine.tick.1 = s'.machine.tick.1 := hr.answer h.machine
  have hnext : Lockstep r { s with machine := s.machine.tick.2 }
      { s' with machine := s'.machine.tick.2 } := h.withMachine (hr.call .tick h.machine)
  cases ht : s.machine.tick.1 with
  | error e =>
    rw [runTick_of_error (m := s.machine.tick.2) (Prod.ext ht rfl),
      runTick_of_error (m := s'.machine.tick.2) (Prod.ext (hanswer.symm.trans ht) rfl)]
    exact hnext.onTickError hr e
  | ok b =>
    cases b with
    | true =>
      rw [runTick_of_ok (m := s.machine.tick.2) (Prod.ext ht rfl),
        runTick_of_ok (m := s'.machine.tick.2) (Prod.ext (hanswer.symm.trans ht) rfl)]
      exact ⟨rfl, hnext.machine, h.policy, h.now, h.generation, h.timer⟩
    | false =>
      rw [runTick_of_idle (m := s.machine.tick.2) (Prod.ext ht rfl),
        runTick_of_idle (m := s'.machine.tick.2) (Prod.ext (hanswer.symm.trans ht) rfl)]
      exact ⟨rfl, hnext⟩

theorem wake (h : Lockstep r s s') (hr : Machine.Bisimulation r) (generation : Nat) :
    (s.wake generation).1 = (s'.wake generation).1 ∧
      Lockstep r (s.wake generation).2 (s'.wake generation).2 := by
  unfold Scheduler.wake
  by_cases hg : s.generation = generation
  · rw [if_pos hg, if_pos (h.generation ▸ hg)]
    exact h.runTick hr
  · rw [if_neg hg, if_neg (h.generation ▸ hg)]
    exact ⟨rfl, h⟩

/-- **A timer that fires keeps lockstep.** -/
theorem fire (h : Lockstep r s s') (hr : Machine.Bisimulation r) (t : Timer) :
    Lockstep r (s.fire t) (s'.fire t) := by
  obtain ⟨hgoes, hnext⟩ := h.wake hr t.generation
  unfold Scheduler.fire
  refine ⟨hnext.machine, hnext.policy, hnext.now, hnext.generation, ?_⟩
  simp only [hgoes, hnext.now, hnext.timer]

theorem wakeUp (h : Lockstep r s s') (hr : Machine.Bisimulation r) (t : Timer) :
    Lockstep r (s.wakeUp t) (s'.wakeUp t) := by
  by_cases hg : t.generation = s.generation
  · rw [wakeUp_of_current hg, wakeUp_of_current (hg.trans h.generation)]
    exact h.fire hr t
  · rw [wakeUp_of_stale hg, wakeUp_of_stale (h.generation ▸ hg)]
    exact h

end Lockstep
end Scheduler
end LedStrip
