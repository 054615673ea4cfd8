import LedStrip.Proofs.Scheduler.Runs

/-!
# Timers of a scheduler

`History.Sound` holds of every history that begins with an idle machine: there is a timer exactly
while the machine runs, it has the current generation and the interval of the machine, and of all
timers ever set it alone is current.  Hence at most one timer can drive the machine
(`one_timer_drives`).
-/

namespace LedStrip.Scheduler.History

variable {R σ : Type}

/-- What holds of the timers of every history. -/
structure Sound (h : History R σ) : Prop where
  active : h.scheduler.timer.isSome ↔ h.scheduler.status = .running
  current : ∀ t, h.scheduler.timer = some t →
    t.generation = h.scheduler.generation ∧ t.period = h.scheduler.speed
  known : ∀ t, h.scheduler.timer = some t → ∃ due, { t with due } ∈ h.timers
  past : ∀ t ∈ h.timers, t.generation ≤ h.scheduler.generation
  live : ∀ t ∈ h.timers, t.generation = h.scheduler.generation →
    ∃ due, h.scheduler.timer = some { t with due }
  ordered : h.timers.Pairwise fun t t' => t.generation < t'.generation

theorem sound_init {m : Machine R σ} (hm : m.status = .idle) (policy : TickPolicy) :
    (init m policy).Sound where
  active := by
    show (none : Option Timer).isSome ↔ m.status = .running
    simp [hm]
  current t ht := by cases ht
  known t ht := by cases ht
  past t ht := by cases ht
  live t ht := by cases ht
  ordered := .nil

/-! ### Steps -/

section Steps

variable {h : History R σ} {s : Scheduler R σ}

theorem Sound.kept (hs : h.Sound) (hk : TimerKept h.scheduler s) : (h.goOn s).Sound := by
  obtain ⟨hg, ⟨due, ht⟩, hst, hsp⟩ := hk
  rw [goOn_of_eq hg]
  refine ⟨?_, fun t' h' => ?_, fun t' h' => ?_, fun t' h' => ?_, fun t' h' hg' => ?_, hs.ordered⟩
  · show s.timer.isSome ↔ s.status = .running
    rw [ht, Option.isSome_map, hst]; exact hs.active
  · obtain ⟨t, h1, rfl⟩ := Option.map_eq_some_iff.mp (ht.symm.trans h')
    have hr : h.scheduler.status = .running := hs.active.mp (by rw [h1]; rfl)
    obtain ⟨h2, h3⟩ := hs.current t h1
    exact ⟨h2.trans hg.symm, h3.trans (hsp hr).symm⟩
  · obtain ⟨t, h1, rfl⟩ := Option.map_eq_some_iff.mp (ht.symm.trans h')
    exact hs.known t h1
  · exact Nat.le_trans (hs.past t' h') (Nat.le_of_eq hg.symm)
  · obtain ⟨d, h1⟩ := hs.live t' h' (hg'.trans hg)
    exact ⟨_, by show s.timer = _; rw [ht, h1]; rfl⟩

theorem Sound.cancelled (hs : h.Sound) (hc : TimerCancelled h.scheduler s) : (h.goOn s).Sound := by
  obtain ⟨hg, ht, hst⟩ := hc
  have hnew : h.goOn s = ⟨s, h.timers⟩ := by
    unfold goOn newTimer?
    rw [if_neg (by omega), ht]; simp
  rw [hnew]
  refine ⟨?_, fun t' h' => ?_, fun t' h' => ?_, fun t' h' => ?_, fun t' h' hg' => ?_, hs.ordered⟩
  · show s.timer.isSome ↔ s.status = .running
    rw [ht]; simp [hst]
  · rw [show s.timer = none from ht] at h'; cases h'
  · rw [show s.timer = none from ht] at h'; cases h'
  · have := hs.past t' h'
    show t'.generation ≤ s.generation
    omega
  · -- every timer set before is of an older generation
    have := hs.past t' h'
    have hg' : t'.generation = s.generation := hg'
    omega

theorem Sound.set (hs : h.Sound) (hc : TimerSet h.scheduler s) : (h.goOn s).Sound := by
  obtain ⟨hg, ht, hst⟩ := hc
  have hnew : h.goOn s = ⟨s, h.timers ++ [⟨s.generation, s.speed, some (s.now + s.speed)⟩]⟩ := by
    unfold goOn newTimer?
    rw [if_neg (by omega), ht]; rfl
  rw [hnew]
  refine ⟨?_, fun t' h' => ?_, fun t' h' => ?_, fun t' h' => ?_, fun t' h' hg' => ?_, ?_⟩
  · show s.timer.isSome ↔ s.status = .running
    rw [ht]; exact ⟨fun _ => hst, fun _ => rfl⟩
  · cases ht.symm.trans h'; exact ⟨rfl, rfl⟩
  · cases ht.symm.trans h'
    exact ⟨some (s.now + s.speed), List.mem_append_right _ (List.mem_singleton.mpr rfl)⟩
  · show t'.generation ≤ s.generation
    rcases List.mem_append.mp h' with h' | h'
    · have := hs.past t' h'
      omega
    · exact Nat.le_of_eq (congrArg Timer.generation (List.mem_singleton.mp h'))
  · have hg' : t'.generation = s.generation := hg'
    rcases List.mem_append.mp h' with h' | h'
    · have := hs.past t' h'
      omega
    · rw [List.mem_singleton.mp h']; exact ⟨_, ht⟩
  · refine List.pairwise_append.mpr ⟨hs.ordered, List.pairwise_singleton _ _, fun t h1 t' h2 => ?_⟩
    have := hs.past t h1
    rw [List.mem_singleton.mp h2]
    show t.generation < s.generation
    omega

variable [Scalar R] [Effect R σ]

theorem Sound.step (hs : h.Sound) (a : Step R) : (h.step a).Sound := by
  cases a with
  | op op =>
    rcases apply_timer h.scheduler op with hk | hc | ht
    · exact hs.kept hk
    · exact hs.cancelled hc
    · exact hs.set ht
  | elapse ms => exact hs.kept (.of_eq rfl rfl rfl fun _ => rfl)
  | wake i =>
    rcases hi : h.timers[i]? with _ | t
    · rw [step_wake_none hi]; exact hs
    · by_cases hg : t.generation = h.scheduler.generation
      · obtain ⟨due, hd⟩ := hs.live t (List.mem_of_getElem? hi) hg
        have hr : h.scheduler.status = .running := hs.active.mp (by rw [hd]; rfl)
        rw [step_wake hi, wakeUp_of_current hg]
        rcases fire_timer hr hg with hk | hc
        · exact hs.kept hk
        · exact hs.cancelled hc
      · rw [step_wake_of_stale hi hg]; exact hs

theorem Sound.run (hs : h.Sound) (steps : List (Step R)) : (h.run steps).Sound := by
  induction steps generalizing h with
  | nil => exact hs
  | cons a steps ih => exact ih (hs.step a)

omit [Scalar R] [Effect R σ] in
/-- Two timers that were set at different times differ in generation. -/
theorem Sound.eq_of_generation (hs : h.Sound) {i j : Nat} {t t' : Timer}
    (hi : h.timers[i]? = some t) (hj : h.timers[j]? = some t')
    (hg : t.generation = t'.generation) : i = j := by
  obtain ⟨hi', rfl⟩ := List.getElem?_eq_some_iff.mp hi
  obtain ⟨hj', rfl⟩ := List.getElem?_eq_some_iff.mp hj
  have hlt := List.pairwise_iff_getElem.mp hs.ordered
  rcases Nat.lt_trichotomy i j with hij | hij | hij
  · have := hlt i j hi' hj' hij
    omega
  · exact hij
  · have := hlt j i hj' hi' hij
    omega

/-- A timer whose wake-up changes anything is the current one. -/
theorem current_of_step_wake_ne {i : Nat} (hne : h.step (.wake i : Step R) ≠ h) :
    ∃ t, h.timers[i]? = some t ∧ t.generation = h.scheduler.generation := by
  rcases hi : h.timers[i]? with _ | t
  · exact absurd (step_wake_none hi) hne
  · exact ⟨t, rfl, Decidable.byContradiction fun hg => hne (step_wake_of_stale hi hg)⟩

end Steps

/-! ### The timer and the machine -/

variable [Scalar R] [Effect R σ]

/-- **At most one timer drives the machine.**  Whatever has happened to a scheduler that began with
an idle machine: there is a timer exactly while the machine runs; it is one of the timers that were
set, has the current generation and ticks at the interval of the machine; the wake-up of a timer of
any other generation ends that timer and changes nothing at all; and no two of the timers ever set
can do anything. -/
theorem one_timer_drives (m : Machine R σ) (hm : m.status = .idle) (policy : TickPolicy)
    (steps : List (Step R)) :
    let h := (init m policy).run steps
    let s := h.scheduler
    (s.isTimerActive = true ↔ s.status = .running) ∧
      (∀ t, s.timer = some t →
        t.generation = s.generation ∧ t.period = s.speed ∧ ∃ due, { t with due } ∈ h.timers) ∧
      (∀ i t, h.timers[i]? = some t → t.generation ≠ s.generation →
        s.wake t.generation = (false, s) ∧ h.step (.wake i) = h) ∧
      (∀ i j, h.step (.wake i) ≠ h → h.step (.wake j) ≠ h → i = j) := by
  intro h s
  have hs : h.Sound := (sound_init hm policy).run steps
  refine ⟨hs.active, fun t ht => ?_, fun i t hi hg => ?_, fun i j hi hj => ?_⟩
  · obtain ⟨hg, hp⟩ := hs.current t ht
    exact ⟨hg, hp, hs.known t ht⟩
  · exact ⟨if_neg fun h' => hg h'.symm, step_wake_of_stale hi hg⟩
  · obtain ⟨t, hti, hgi⟩ := current_of_step_wake_ne hi
    obtain ⟨t', htj, hgj⟩ := current_of_step_wake_ne hj
    exact hs.eq_of_generation hti htj (hgi.trans hgj.symm)

/-- A change of the interval leaves the first timer stale: when it wakes up late, nothing changes.
-/
theorem late_wake_changes_nothing :
    let h := (init Machine.blinking .halt).run [.op .start, .op (.setSpeed 50)]
    Machine.blinking.status = .idle ∧ h.timers = [⟨1, 100, some 100⟩, ⟨2, 50, some 50⟩] ∧
      h.step (.wake 0) = h :=
  have hstale := (one_timer_drives Machine.blinking rfl .halt
    [.op .start, .op (.setSpeed 50)]).2.2.1 0 ⟨1, 100, some 100⟩ rfl (by decide)
  ⟨rfl, rfl, hstale.2⟩

end LedStrip.Scheduler.History
