import Mathlib.Data.List.Induction
import LedStrip.Proofs.Scheduler.Clock

/-!
# Ticks on the beat

A timed run interleaves operations with time that passes.  `OnBeat` is the invariant of a stretch,
from the operation that sets a timer until the next that sets or cancels one: its ticks come at
whole multiples of the interval.  Every tick belongs to a stretch, which gives `ticks_at_multiples`.
-/

namespace LedStrip.Scheduler

variable {R σ : Type}

/-! ### Timed runs -/

/-- What happens on the clock: an operation, or time that passes while the timer fires whenever it
is due. -/
inductive TimedStep (R : Type) where
  | op (op : Op R)
  | advance (ms : Nat)

section Definitions

variable [Scalar R] [Effect R σ]

def timedStep (s : Scheduler R σ) : TimedStep R → Scheduler R σ
  | .op op => s.apply op
  | .advance ms => s.advance ms

def timedRun (s : Scheduler R σ) (steps : List (TimedStep R)) : Scheduler R σ :=
  steps.foldl timedStep s

omit [Scalar R] in
/-- The ticks of one step; operations have none. -/
def stepTicks (s : Scheduler R σ) : TimedStep R → List Tick
  | .op _ => []
  | .advance ms => (s.record ms).1

/-- The ticks of a run, in order. -/
def ticks (s : Scheduler R σ) : List (TimedStep R) → List Tick
  | [] => []
  | a :: steps => s.stepTicks a ++ (s.timedStep a).ticks steps

/-- Steps none of which sets or cancels a timer, other than by a tick that halts. -/
def Quiet (s : Scheduler R σ) : List (TimedStep R) → Prop
  | [] => True
  | a :: steps => (∀ op, a = .op op → ¬ op.Sets s ∧ ¬ op.Cancels s) ∧ (s.timedStep a).Quiet steps

end Definitions

/-! ### Stretches -/

/-- A stretch that began at time `a` with interval `p` has had these ticks: at `a + p`, `a + 2 * p`
and so on, and none but the last halted.  Without a halt the next tick is due one interval after the
last. -/
structure OnBeat (a p : Nat) (log : List Tick) (s : Scheduler R σ) : Prop where
  times : log.map Tick.time = (List.range log.length).map fun i => a + (i + 1) * p
  started : a + log.length * p ≤ s.now
  unhalted : ∀ τ ∈ log.dropLast, ¬ τ.halts
  going : (∀ τ ∈ log, ¬ τ.halts) → s.timer = some ⟨s.generation, p, some (a + (log.length + 1) * p)⟩
  halted : (∃ τ ∈ log, τ.halts) → s.timer = none

section Stretches

variable [Scalar R] [Effect R σ] {s : Scheduler R σ}

theorem onBeat_of_sets {op : Op R} (h : op.Sets s) :
    OnBeat s.now (s.apply op).speed [] (s.apply op) := by
  obtain ⟨⟨-, ht, -⟩, hnow⟩ := apply_of_sets h
  refine ⟨rfl, ?_, fun _ hm => (List.not_mem_nil hm).elim, fun _ => ?_, ?_⟩
  · rw [hnow]
    simp
  · rw [ht, hnow]
    simp
  · rintro ⟨_, hm, -⟩
    exact (List.not_mem_nil hm).elim

variable {a p : Nat} {log : List Tick}

theorem OnBeat.apply (hb : OnBeat a p log s) {op : Op R} (hs : ¬ op.Sets s) (hc : ¬ op.Cancels s) :
    OnBeat a p log (s.apply op) := by
  obtain ⟨hg, ht, hn, -⟩ := apply_of_quiet hs hc
  refine ⟨hb.times, hn.symm ▸ hb.started, hb.unhalted, fun h => ?_, fun h => ht.trans (hb.halted h)⟩
  rw [ht, hg]
  exact hb.going h

omit [Scalar R] [Effect R σ] in
/-- A timer that is set was not halted, and is due on the beat. -/
theorem OnBeat.next (hb : OnBeat a p log s) {due : Nat}
    (ht : s.timer = some ⟨s.generation, s.speed, some due⟩) :
    (∀ τ ∈ log, ¬ τ.halts) ∧ p = s.speed ∧ due = a + (log.length + 1) * p := by
  have hno : ∀ τ ∈ log, ¬ τ.halts := by
    intro τ hτ hh
    cases (hb.halted ⟨τ, hτ, hh⟩).symm.trans ht
  have hsome := (hb.going hno).symm.trans ht
  simp only [Option.some.injEq, Timer.mk.injEq, true_and] at hsome
  exact ⟨hno, hsome.1, hsome.2.symm⟩

omit [Scalar R] in
/-- One more tick on the beat. -/
theorem OnBeat.fire (hs : OnTime s) (hb : OnBeat a p log s) {due : Nat}
    (ht : s.timer = some ⟨s.generation, s.speed, some due⟩) :
    OnBeat a p (log ++ [⟨due, s.policy, s.machine.tick.1⟩])
      ({ s with now := due }.fire ⟨s.generation, s.speed, some due⟩) := by
  have hr : s.status = .running := (hs.timer _ ht).1
  obtain ⟨hno, rfl, rfl⟩ := hb.next ht
  refine ⟨?_, ?_, ?_, fun h => ?_, fun h => ?_⟩
  · rw [List.map_append, hb.times, List.length_append, List.length_singleton, List.range_succ,
      List.map_append]
    rfl
  · exact Nat.le_of_eq (by rw [(hs.fire ht).2, List.length_append, List.length_singleton])
  · rw [List.dropLast_concat]
    exact hno
  · -- the last tick is the one that decides whether there is a next
    have hh : ¬ s.Halts := h _ (List.mem_append_right _ (List.mem_singleton.mpr rfl))
    obtain ⟨-, h2, -, -, h5⟩ := fire_of_due hr ht hh
    rw [h5, h2, List.length_append, List.length_singleton, Nat.add_mul (log.length + 1) 1,
      Nat.one_mul, Nat.add_assoc]
  · obtain ⟨τ, hτ, hhalts⟩ := h
    rcases List.mem_append.mp hτ with hτ | hτ
    · exact absurd hhalts (hno τ hτ)
    · rw [List.mem_singleton.mp hτ] at hhalts
      exact (fire_of_due_halts hr hhalts _).2.2

omit [Scalar R] in
theorem OnBeat.record (hs : OnTime s) (hb : OnBeat a p log s) (ms : Nat) :
    OnBeat a p (log ++ (s.record ms).1) (s.record ms).2 := by
  refine hs.record_induction (P := fun ms s => ∀ log, OnBeat a p log s →
    OnBeat a p (log ++ (s.record ms).1) (s.record ms).2) ?_ ?_ ms log hb
  · intro ms s hs hl log hb
    rw [record_of_later hl, List.append_nil]
    exact ⟨hb.times, Nat.le_trans hb.started (Nat.le_add_right _ _), hb.unhalted, hb.going,
      hb.halted⟩
  · intro ms s due hs ht hlt hle ih log hb
    rw [record_of_due hs ht hle, List.append_cons]
    exact ih _ (OnBeat.fire hs hb ht)

omit [Scalar R] [Effect R σ] in
/-- The next tick is always ahead, so the ticks so far are as many as whole intervals have passed.
-/
theorem OnBeat.length_eq (hs : OnTime s) (hb : OnBeat a p log s) (hno : ∀ τ ∈ log, ¬ τ.halts) :
    log.length = (s.now - a) / p := by
  obtain ⟨-, due, hd, hlt⟩ := hs.timer _ (hb.going hno)
  simp only [Timer.mk.injEq, Option.some.injEq, true_and] at hd
  rw [← hd.2] at hlt
  have := hb.started
  exact (Nat.div_eq_of_lt_le (by omega) (by omega)).symm

end Stretches

/-! ### Runs -/

section Runs

variable [Scalar R] [Effect R σ] {s : Scheduler R σ}

omit [Scalar R] in
/-- The calls of one step: those of its operation or of its ticks. -/
def timedCalls (s : Scheduler R σ) : TimedStep R → List (Machine.Call R)
  | .op op => op.calls s
  | .advance ms => (s.record ms).1.flatMap Tick.calls

theorem timedRun_append (s : Scheduler R σ) (steps more : List (TimedStep R)) :
    s.timedRun (steps ++ more) = (s.timedRun steps).timedRun more := List.foldl_append

theorem ticks_append (s : Scheduler R σ) (steps more : List (TimedStep R)) :
    s.ticks (steps ++ more) = s.ticks steps ++ (s.timedRun steps).ticks more := by
  induction steps generalizing s with
  | nil => rfl
  | cons a steps ih =>
    rw [List.cons_append, ticks, ticks, ih, List.append_assoc]
    rfl

theorem quiet_append {steps more : List (TimedStep R)} (h : s.Quiet steps)
    (h' : (s.timedRun steps).Quiet more) : s.Quiet (steps ++ more) := by
  induction steps generalizing s with
  | nil => exact h'
  | cons a steps ih => exact ⟨h.1, ih h.2 h'⟩

theorem timedStep_advance (s : Scheduler R σ) (ms : Nat) :
    s.timedStep (.advance ms) = (s.record ms).2 :=
  (record_eq s ms).symm

theorem OnTime.timedStep (hs : OnTime s) (a : TimedStep R) : OnTime (s.timedStep a) := by
  cases a with
  | op op => exact hs.apply op
  | advance ms =>
    rw [timedStep_advance]
    exact (hs.record ms).1

theorem OnTime.timedRun (hs : OnTime s) (steps : List (TimedStep R)) :
    OnTime (s.timedRun steps) := by
  induction steps generalizing s with
  | nil => exact hs
  | cons a steps ih => exact ih (hs.timedStep a)

/-- The machine is called by operations and ticks only. -/
theorem machine_timedStep (hs : OnTime s) (a : TimedStep R) :
    (s.timedStep a).machine = s.machine.calls (s.timedCalls a) := by
  cases a with
  | op op => exact machine_apply s op
  | advance ms =>
    rw [timedStep_advance]
    exact machine_record hs ms

theorem OnBeat.timedRun {a p : Nat} {log : List Tick} (hs : OnTime s) (hb : OnBeat a p log s)
    {steps : List (TimedStep R)} (hq : s.Quiet steps) :
    OnBeat a p (log ++ s.ticks steps) (s.timedRun steps) := by
  induction steps generalizing s log with
  | nil => rwa [ticks, List.append_nil]
  | cons step steps ih =>
    have hb' : OnBeat a p (log ++ s.stepTicks step) (s.timedStep step) := by
      cases step with
      | op op =>
        obtain ⟨hset, hcan⟩ := hq.1 op rfl
        show OnBeat a p (log ++ []) (s.apply op)
        rw [List.append_nil]
        exact hb.apply hset hcan
      | advance ms =>
        rw [timedStep_advance]
        exact hb.record hs ms
    rw [ticks, ← List.append_assoc]
    exact ih (hs.timedStep step) hb' hq.2

omit [Scalar R] in
/-- Without a timer there are no ticks. -/
theorem record_of_none (ht : s.timer = none) (ms : Nat) :
    s.record ms = ([], { s with now := s.now + ms }) := by
  refine record_of_later fun t due h _ => ?_
  cases ht.symm.trans h

/-- A timer that is set now was set by the last operation that set or cancelled one. -/
theorem exists_sets_of_timer (hn : s.timer = none) {steps : List (TimedStep R)}
    (ht : (s.timedRun steps).timer ≠ none) :
    ∃ before op during, steps = before ++ .op op :: during ∧ op.Sets (s.timedRun before) ∧
      ((s.timedRun before).apply op).Quiet during := by
  induction steps using List.reverseRecOn with
  | nil => exact absurd hn ht
  | append_singleton steps a ih =>
    rw [timedRun_append] at ht
    -- a step that leaves the timer alone prolongs the stretch before it
    have prolong (hold : (s.timedRun steps).timer ≠ none) (hq : (s.timedRun steps).Quiet [a]) :
        ∃ before op during, steps ++ [a] = before ++ .op op :: during ∧
          op.Sets (s.timedRun before) ∧ ((s.timedRun before).apply op).Quiet during := by
      obtain ⟨before, op, during, rfl, hset, hquiet⟩ := ih hold
      refine ⟨before, op, during ++ [a], by simp, hset, quiet_append hquiet ?_⟩
      rwa [timedRun_append] at hq
    cases a with
    | op op =>
      by_cases hset : op.Sets (s.timedRun steps)
      · exact ⟨steps, op, [], rfl, hset, trivial⟩
      · by_cases hcan : op.Cancels (s.timedRun steps)
        · exact absurd (apply_of_cancels hcan).1.timer ht
        · refine prolong ?_ ⟨fun _ h => by cases h; exact ⟨hset, hcan⟩, trivial⟩
          rw [← (apply_of_quiet hset hcan).2.1]
          exact ht
    | advance ms =>
      refine prolong (fun hnone => ht ?_) ⟨nofun, trivial⟩
      show ((s.timedRun steps).timedStep (.advance ms)).timer = none
      rw [timedStep_advance, record_of_none hnone]
      exact hnone

/-- Every tick of a run is one of the stretch after an operation that set a timer. -/
theorem exists_sets_of_mem_ticks (hn : s.timer = none) {steps : List (TimedStep R)} {τ : Tick}
    (hτ : τ ∈ s.ticks steps) :
    ∃ before op during after, steps = before ++ .op op :: during ++ after ∧
      op.Sets (s.timedRun before) ∧ ((s.timedRun before).apply op).Quiet during ∧
        τ ∈ ((s.timedRun before).apply op).ticks during := by
  induction steps using List.reverseRecOn with
  | nil => exact (List.not_mem_nil hτ).elim
  | append_singleton steps a ih =>
    rw [ticks_append] at hτ
    rcases List.mem_append.mp hτ with hτ | hτ
    · obtain ⟨before, op, during, after, rfl, hset, hquiet, hmem⟩ := ih hτ
      exact ⟨before, op, during, after ++ [a], by simp, hset, hquiet, hmem⟩
    · rw [ticks, ticks, List.append_nil] at hτ
      cases a with
      | op op => exact (List.not_mem_nil hτ).elim
      | advance ms =>
        have ht : (s.timedRun steps).timer ≠ none := fun hnone => by
          rw [stepTicks, record_of_none hnone] at hτ
          exact List.not_mem_nil hτ
        obtain ⟨before, op, during, rfl, hset, hquiet⟩ := exists_sets_of_timer hn ht
        refine ⟨before, op, during ++ [.advance ms], [], by simp, hset,
          quiet_append hquiet ⟨nofun, trivial⟩, ?_⟩
        rw [timedRun_append] at hτ
        rw [ticks_append]
        exact List.mem_append_right _ (by rw [ticks, ticks, List.append_nil]; exact hτ)

/-- The interval that the machine has already, given as a parameter, changes nothing. -/
theorem setConfig_of_same_speed {v : Json R}
    (h : (s.machine.setConfig "speed" v).2.speed = s.speed) :
    s.apply (.setConfig "speed" v) = s := by
  have hm : (s.machine.setConfig "speed" v).2 = s.machine := by
    cases hv : Machine.speedValue v with
    | error e => rw [Machine.setConfig_speed_error _ hv]
    | ok ms =>
      rw [Machine.setConfig_speed_ok _ hv] at h ⊢
      show { s.machine with speed := (s.machine.setSpeed ms).speed } = s.machine
      rw [h]
      rfl
  refine (setConfig_of_kept fun hc => hc.1 h).trans ?_
  rw [hm]

omit [Scalar R] [Effect R σ] in
theorem tick_notMem_opCalls (s : Scheduler R σ) (op : Op R) : .tick ∉ op.calls s := by
  unfold Op.calls
  cases op with
  | togglePause => rcases s.status with _ | _ | _ <;> simp
  | _ => simp

/-- The time that a step takes. -/
def TimedStep.ms : TimedStep R → Nat
  | .op _ => 0
  | .advance ms => ms

theorem now_timedStep (hs : OnTime s) (a : TimedStep R) : (s.timedStep a).now = s.now + a.ms := by
  cases a with
  | op op =>
    show (s.apply op).now = s.now
    by_cases hset : op.Sets s
    · exact (apply_of_sets hset).2
    · by_cases hcan : op.Cancels s
      · exact (apply_of_cancels hcan).2
      · exact (apply_of_quiet hset hcan).2.2.1
  | advance ms =>
    rw [timedStep_advance]
    exact (hs.record ms).2

end Runs

/-- **Ticks come at whole multiples of the interval.**  For a scheduler of any machine that was
created and used:

* from an operation that sets a timer until the next that sets or cancels one, the ticks are on the
  beat, and without a halt they are as many as whole intervals have passed;
* there are no other ticks: each belongs to such a stretch, and the machine is called by operations
  and ticks only;
* the interval that the machine has already, given as a parameter, changes nothing;
* time passes the same in one go and in two. -/
theorem ticks_at_multiples [Scalar R] [Effect R σ] (m : Machine R σ) (hm : m.Used)
    (policy : TickPolicy) :
    let start := create m policy
    (∀ before op during,
      let s := start.timedRun before
      let log := (s.apply op).ticks during
      let later := (s.apply op).timedRun during
      op.Sets s → (s.apply op).Quiet during →
        OnBeat s.now (s.apply op).speed log later ∧
          ((∀ τ ∈ log, ¬ τ.halts) → log.length = (later.now - s.now) / (s.apply op).speed)) ∧
      (∀ steps, ∀ τ ∈ start.ticks steps, ∃ before op during after,
        steps = before ++ .op op :: during ++ after ∧ op.Sets (start.timedRun before) ∧
          ((start.timedRun before).apply op).Quiet during ∧
            τ ∈ ((start.timedRun before).apply op).ticks during) ∧
      (∀ steps a,
        let s := start.timedRun steps
        (s.timedStep a).machine = s.machine.calls (s.timedCalls a) ∧
          (s.timedStep a).now = s.now + a.ms ∧
          ∀ op, a = .op op → .tick ∉ s.timedCalls a) ∧
      (∀ steps v,
        let s := start.timedRun steps
        (s.machine.setConfig "speed" v).2.speed = s.speed → s.apply (.setConfig "speed" v) = s) ∧
      ∀ steps ms more,
        let s := start.timedRun steps
        s.advance (ms + more) = (s.advance ms).advance more ∧
          s.ticks [.advance (ms + more)] = s.ticks [.advance ms, .advance more] := by
  intro start
  have hrun (steps : List (TimedStep R)) : OnTime (start.timedRun steps) :=
    (onTime_create hm policy).timedRun steps
  refine ⟨?_, fun steps τ hτ => exists_sets_of_mem_ticks rfl hτ, ?_,
    fun steps v => setConfig_of_same_speed, ?_⟩
  · intro before op during s log later hset hquiet
    have hs : OnTime (s.apply op) := (hrun before).apply op
    have hbeat : OnBeat s.now (s.apply op).speed log later :=
      (onBeat_of_sets hset).timedRun hs hquiet
    exact ⟨hbeat, hbeat.length_eq (hs.timedRun during)⟩
  · intro steps a s
    refine ⟨machine_timedStep (hrun steps) a, now_timedStep (hrun steps) a, ?_⟩
    rintro op rfl
    exact tick_notMem_opCalls s op
  · intro steps ms more s
    have h := record_add (hrun steps) ms more
    rw [record_eq s ms] at h
    refine ⟨?_, ?_⟩
    · rw [← record_eq, h, record_eq]
    · rw [ticks, ticks, ticks, ticks, ticks, List.append_nil, List.append_nil]
      exact congrArg Prod.fst h

/-- A blinking strip ticks three times within 350 milliseconds, whoever subscribes in between. -/
theorem blinking_ticks :
    let s := (create Machine.blinking .halt).apply .start
    let during := [.advance 250, .op .subscribe, .advance 100]
    Machine.blinking.Used ∧ Op.start.Sets (create Machine.blinking .halt) ∧ s.Quiet during ∧
      (s.ticks during).map Tick.time = [100, 200, 300] := by
  intro s during
  have hused : Machine.blinking.Used := ⟨"blink", 2, 100, { color := Blink.defaultColor }, [], rfl⟩
  have hset : Op.start.Sets (create Machine.blinking .halt) := rfl
  have hquiet : s.Quiet during :=
    ⟨nofun, fun op h => by cases h; exact ⟨id, id⟩, nofun, trivial⟩
  have hlength : (s.ticks during).length = 3 := by decide
  have hlaw : (s.ticks during).map Tick.time =
      (List.range (s.ticks during).length).map fun i => 0 + (i + 1) * 100 :=
    ((ticks_at_multiples Machine.blinking hused .halt).1 [] .start during hset hquiet).1.times
  refine ⟨hused, hset, hquiet, ?_⟩
  rw [hlaw, hlength]
  rfl

end LedStrip.Scheduler
