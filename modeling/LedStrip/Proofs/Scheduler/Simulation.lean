import LedStrip.Proofs.Scheduler.Timers

/-!
# A scheduler as a sequence of calls

Whatever happens to a scheduler, its machine is where a bare machine gets by a list of calls
(`machine_run`): each operation makes its own call, each firing of the current timer makes one tick,
and a tick that halts is followed by a pause.
-/

namespace LedStrip.Scheduler

variable {R σ : Type}

/-- The calls that an operation makes. -/
def Op.calls (s : Scheduler R σ) : Op R → List (Machine.Call R)
  | .start => [.start]
  | .pause => [.pause]
  | .resume => [.resume]
  | .togglePause =>
    match s.status with
    | .running => [.pause]
    | .paused => [.resume]
    | .idle => []
  | .stop => [.stop]
  | .setSpeed ms => [.setSpeed ms]
  | .setConfig key v => [.setConfig key v]
  | _ => []

/-- The calls of a tick with some answer: when errors halt, one that fails is followed by a pause.
-/
def tickCallsOf (policy : TickPolicy) (answer : Except EffectError Bool) : List (Machine.Call R) :=
  match policy, answer with
  | .halt, .error _ => [.tick, .pause]
  | _, _ => [.tick]

/-- The calls that the current timer makes when it fires. -/
def tickCalls [Effect R σ] (s : Scheduler R σ) : List (Machine.Call R) :=
  tickCallsOf s.policy s.machine.tick.1

/-! ### Calls of one step -/

section OneStep

variable {s : Scheduler R σ}

theorem machine_start (s : Scheduler R σ) : s.start.2.machine = s.machine.start.2 := by
  by_cases h : s.status = .idle
  · rw [start_of_idle h]
    exact (congrArg Prod.snd (Machine.transition_of_eq .running h)).symm
  · rw [start_of_not_idle h]
    exact (congrArg Prod.snd (Machine.transition_of_ne .running h)).symm

theorem machine_pause (s : Scheduler R σ) : s.pause.2.machine = s.machine.pause.2 := by
  by_cases h : s.status = .running
  · rw [pause_of_running h]
    exact (congrArg Prod.snd (Machine.transition_of_eq .paused h)).symm
  · rw [pause_of_not_running h]
    exact (congrArg Prod.snd (Machine.transition_of_ne .paused h)).symm

theorem machine_resume (s : Scheduler R σ) : s.resume.2.machine = s.machine.resume.2 := by
  by_cases h : s.status = .paused
  · rw [resume_of_paused h]
    exact (congrArg Prod.snd (Machine.transition_of_eq .running h)).symm
  · rw [resume_of_not_paused h]
    exact (congrArg Prod.snd (Machine.transition_of_ne .running h)).symm

theorem machine_setConfig [Scalar R] [Effect R σ] (s : Scheduler R σ) (key : String) (v : Json R) :
    (s.setConfig key v).2.machine = (s.machine.setConfig key v).2 := by
  by_cases h : (s.machine.setConfig key v).2.speed ≠ s.speed ∧ s.status = .running
  · rw [setConfig_of_changed h.1 h.2]; rfl
  · rw [setConfig_of_kept h]

/-- An operation does to the machine what its calls do. -/
theorem machine_apply [Scalar R] [Effect R σ] (s : Scheduler R σ) (op : Op R) :
    (s.apply op).machine = s.machine.calls (op.calls s) := by
  cases op with
  | start => exact machine_start s
  | pause => exact machine_pause s
  | resume => exact machine_resume s
  | togglePause =>
    show s.togglePause.2.machine = s.machine.calls (Op.togglePause.calls s)
    unfold Op.calls
    rcases h : s.status with _ | _ | _
    · rw [togglePause_of_idle h]; rfl
    · rw [togglePause_of_running h]; exact machine_pause s
    · rw [togglePause_of_paused h]; exact machine_resume s
  | setSpeed ms =>
    show (s.setSpeed ms).machine = s.machine.setSpeed ms
    by_cases h : s.status = .running
    · rw [setSpeed_of_running h]; rfl
    · rw [setSpeed_of_not_running h]
  | setConfig key v => exact machine_setConfig s key v
  | _ => rfl

variable [Effect R σ]

theorem tickCalls_of_halts (h : s.Halts) : s.tickCalls = [.tick, .pause] := by
  obtain ⟨hp, e, he⟩ := h
  unfold tickCalls tickCallsOf; rw [hp, he]

theorem tickCalls_of_not_halts (h : ¬ s.Halts) : s.tickCalls = [.tick] := by
  unfold tickCalls tickCallsOf
  split
  · next e hp he => exact absurd ⟨hp, e, he⟩ h
  · rfl

/-- The current timer does to the machine what its calls do. -/
theorem machine_fire [Scalar R] (hr : s.status = .running) {t : Timer}
    (hg : t.generation = s.generation) : (s.fire t).machine = s.machine.calls s.tickCalls := by
  by_cases hh : s.Halts
  · obtain ⟨e, -, he⟩ := fire_of_halts hr hh hg
    rw [he, tickCalls_of_halts hh]
    exact (congrArg Prod.snd
      (Machine.transition_of_eq .paused ((Machine.status_tick s.machine).trans hr))).symm
  · obtain ⟨_, _, _, he⟩ := fire_of_not_halts hr hh hg
    rw [he, tickCalls_of_not_halts hh]; rfl

end OneStep

/-! ### Calls of a history -/

namespace History

variable [Effect R σ]

/-- The calls that a step makes. -/
def stepCalls (h : History R σ) : Step R → List (Machine.Call R)
  | .op op => op.calls h.scheduler
  | .elapse _ => []
  | .wake i =>
    match h.timers[i]? with
    | some t => if t.generation = h.scheduler.generation then h.scheduler.tickCalls else []
    | none => []

variable {h : History R σ}

theorem stepCalls_of_current {i : Nat} {t : Timer} (hi : h.timers[i]? = some t)
    (hg : t.generation = h.scheduler.generation) :
    h.stepCalls (.wake i) = h.scheduler.tickCalls := by
  simp only [stepCalls, hi, if_pos hg]

theorem stepCalls_of_stale {i : Nat} {t : Timer} (hi : h.timers[i]? = some t)
    (hg : t.generation ≠ h.scheduler.generation) : h.stepCalls (.wake i : Step R) = [] := by
  simp only [stepCalls, hi, if_neg hg]

omit [Effect R σ] in
/-- A timer of the current generation is set only while the machine runs. -/
theorem Sound.running_of_current (hs : h.Sound) {i : Nat} {t : Timer} (hi : h.timers[i]? = some t)
    (hg : t.generation = h.scheduler.generation) : h.scheduler.status = .running := by
  obtain ⟨due, hd⟩ := hs.live t (List.mem_of_getElem? hi) hg
  exact hs.active.mp (by rw [hd]; rfl)

variable [Scalar R]

/-- **What a wake-up can do**: nothing, or it makes the current timer fire while the machine runs.
-/
theorem Sound.wake_cases (hs : h.Sound) (i : Nat) :
    (h.step (.wake i) = h ∧ h.stepCalls (.wake i) = []) ∨
      ∃ t, t.generation = h.scheduler.generation ∧ h.scheduler.status = .running ∧
        h.step (.wake i) = h.goOn (h.scheduler.fire t) ∧
        h.stepCalls (.wake i) = h.scheduler.tickCalls := by
  rcases hi : h.timers[i]? with _ | t
  · exact .inl ⟨step_wake_none hi, by simp only [stepCalls, hi]⟩
  · by_cases hg : t.generation = h.scheduler.generation
    · refine .inr ⟨t, hg, hs.running_of_current hi hg, ?_, stepCalls_of_current hi hg⟩
      rw [step_wake hi, wakeUp_of_current hg]
    · exact .inl ⟨step_wake_of_stale hi hg, stepCalls_of_stale hi hg⟩

/-- The calls that some steps make, in order. -/
def calls (h : History R σ) : List (Step R) → List (Machine.Call R)
  | [] => []
  | a :: steps => h.stepCalls a ++ (h.step a).calls steps

theorem machine_step (hs : h.Sound) (a : Step R) :
    (h.step a).scheduler.machine = h.scheduler.machine.calls (h.stepCalls a) := by
  cases a with
  | op op => exact machine_apply h.scheduler op
  | elapse ms => rfl
  | wake i =>
    rcases hs.wake_cases i with ⟨hstep, hcalls⟩ | ⟨t, hg, hr, hstep, hcalls⟩
    · rw [hstep, hcalls, Machine.calls_nil]
    · rw [hstep, hcalls]
      exact machine_fire hr hg

/-- The machine of a history is where a bare machine gets by the same calls. -/
theorem machine_run (hs : h.Sound) (steps : List (Step R)) :
    (h.run steps).scheduler.machine = h.scheduler.machine.calls (h.calls steps) := by
  induction steps generalizing h with
  | nil => rfl
  | cons a steps ih => rw [run_cons, ih (hs.step a), machine_step hs, calls, Machine.calls_append]

end History

end LedStrip.Scheduler
