import LedStrip.Proofs.Scheduler.Simulation

/-!
# Time that passes

`record` is `advance` with a record of its ticks.  While a scheduler is `OnTime`, which it is from
its creation on, the fuel of the recursion does not matter: either no timer is due, or the timer
fires when it is due and the rest follows (`record_of_later`, `record_of_due`).
`OnTime.record_induction` turns the two into an induction along the clock.
-/

namespace LedStrip.Scheduler

variable {R σ : Type}

/-- A tick: its time, the policy at that time and the answer of the machine. -/
structure Tick where
  time : Nat
  policy : TickPolicy
  answer : Except EffectError Bool

/-- Whether a tick halts its timer. -/
def Tick.halts (τ : Tick) : Prop := τ.policy = .halt ∧ ∃ e, τ.answer = .error e

/-- The calls that a tick makes. -/
def Tick.calls (τ : Tick) : List (Machine.Call R) := tickCallsOf τ.policy τ.answer

section Definitions

variable [Effect R σ]

/-- The tick of a timer that fires at some time: none if the timer is stale or the machine does not
run. -/
def tick? (s : Scheduler R σ) (t : Timer) (time : Nat) : Option Tick :=
  if t.generation = s.generation ∧ s.status = .running then
    some ⟨time, s.policy, s.machine.tick.1⟩
  else none

/-- `advanceTo` with a record of the ticks. -/
def recordTo (target : Nat) : Nat → Scheduler R σ → List Tick × Scheduler R σ
  | 0, s => ([], { s with now := target })
  | fuel + 1, s =>
    match s.timer with
    | some t =>
      match t.due with
      | some due =>
        if due ≤ target then
          let rest := recordTo target fuel ({ s with now := due }.fire t)
          ((s.tick? t due).toList ++ rest.1, rest.2)
        else ([], { s with now := target })
      | none => ([], { s with now := target })
    | none => ([], { s with now := target })

/-- `advance` with a record of the ticks. -/
def record (s : Scheduler R σ) (ms : Nat) : List Tick × Scheduler R σ := recordTo (s.now + ms) ms s

/-- The record changes nothing. -/
theorem record_eq (s : Scheduler R σ) (ms : Nat) : (s.record ms).2 = s.advance ms := by
  suffices h : ∀ target fuel (s : Scheduler R σ),
      (recordTo target fuel s).2 = advanceTo target fuel s from h _ _ s
  intro target fuel
  induction fuel with
  | zero => intro s; rfl
  | succ fuel ih =>
    intro s
    unfold recordTo advanceTo
    rcases ht : s.timer with _ | t
    · rfl
    · rcases hd : t.due with _ | due
      · simp only [hd]
      · by_cases hle : due ≤ target
        · simp only [hd, if_pos hle]; rw [← ht]; exact ih _
        · simp only [hd, if_neg hle]

end Definitions

/-! ### Schedulers on time -/

/-- If there is a timer, then the machine runs and the timer will fire later, in the current
generation and at the interval of the machine. -/
structure OnTime (s : Scheduler R σ) : Prop where
  speed_pos : 1 ≤ s.speed
  timer : ∀ t, s.timer = some t →
    s.status = .running ∧ ∃ due, t = ⟨s.generation, s.speed, some due⟩ ∧ s.now < due

section OneFire

variable [Scalar R] [Effect R σ] {s : Scheduler R σ}

theorem onTime_create {m : Machine R σ} (hm : m.Used) (policy : TickPolicy) :
    OnTime (create m policy) :=
  ⟨hm.speed_pos, fun _ h => by cases h⟩

theorem OnTime.apply (hs : OnTime s) (op : Op R) : OnTime (s.apply op) := by
  have hsp : 1 ≤ (s.apply op).machine.speed := by
    rw [machine_apply]
    exact Machine.speed_pos_calls hs.speed_pos _
  refine ⟨hsp, fun t ht => ?_⟩
  by_cases hset : op.Sets s
  · obtain ⟨⟨-, h1, h2⟩, -⟩ := apply_of_sets hset
    cases h1.symm.trans ht
    exact ⟨h2, _, rfl, Nat.lt_add_of_pos_right hsp⟩
  · by_cases hc : op.Cancels s
    · cases (apply_of_cancels hc).1.timer.symm.trans ht
    · obtain ⟨h1, h2, h3, h4, h5⟩ := apply_of_quiet hset hc
      obtain ⟨hr, due, rfl, hlt⟩ := hs.timer t (h2.symm.trans ht)
      rw [h1, h3, h4, h5 hr]
      exact ⟨hr, due, rfl, hlt⟩

variable {due : Nat}

omit [Scalar R] in
/-- A timer that fires when it is due and does not halt is due again one interval later. -/
theorem fire_of_due (hr : s.status = .running)
    (ht : s.timer = some ⟨s.generation, s.speed, some due⟩) (hh : ¬ s.Halts) :
    let s' := { s with now := due }.fire ⟨s.generation, s.speed, some due⟩
    s'.now = due ∧ s'.generation = s.generation ∧ s'.speed = s.speed ∧ s'.status = .running ∧
      s'.timer = some ⟨s.generation, s.speed, some (due + s.speed)⟩ := by
  obtain ⟨_, _, _, he⟩ := fire_of_not_halts (s := { s with now := due }) hr hh
    (t := ⟨s.generation, s.speed, some due⟩) rfl
  rw [he]
  refine ⟨rfl, rfl, Machine.speed_tick s.machine, (Machine.status_tick s.machine).trans hr, ?_⟩
  show s.timer.map _ = _
  rw [ht]
  rfl

omit [Scalar R] in
/-- A timer whose tick halts is gone. -/
theorem fire_of_due_halts (hr : s.status = .running) (hh : s.Halts) (due : Nat) :
    let s' := { s with now := due }.fire ⟨s.generation, s.speed, some due⟩
    s'.now = due ∧ s'.speed = s.speed ∧ s'.timer = none := by
  obtain ⟨_, -, he⟩ := fire_of_halts (s := { s with now := due }) hr hh
    (t := ⟨s.generation, s.speed, some due⟩) rfl
  rw [he]
  exact ⟨rfl, Machine.speed_tick s.machine, rfl⟩

omit [Scalar R] in
theorem OnTime.fire (hs : OnTime s) (ht : s.timer = some ⟨s.generation, s.speed, some due⟩) :
    OnTime ({ s with now := due }.fire ⟨s.generation, s.speed, some due⟩) ∧
      ({ s with now := due }.fire ⟨s.generation, s.speed, some due⟩).now = due := by
  have hr : s.status = .running := (hs.timer _ ht).1
  by_cases hh : s.Halts
  · obtain ⟨h1, h2, h3⟩ := fire_of_due_halts hr hh due
    exact ⟨⟨h2 ▸ hs.speed_pos, fun t h => by cases h3.symm.trans h⟩, h1⟩
  · obtain ⟨h1, h2, h3, h4, h5⟩ := fire_of_due hr ht hh
    refine ⟨⟨h3 ▸ hs.speed_pos, fun t h => ?_⟩, h1⟩
    cases h5.symm.trans h
    have := hs.speed_pos
    exact ⟨h4, due + s.speed, by rw [h2, h3], by omega⟩

end OneFire

/-! ### Time that passes -/

section Passing

variable [Effect R σ] {s : Scheduler R σ}

theorem recordTo_of_later {target : Nat} (fuel : Nat)
    (h : ∀ t due, s.timer = some t → t.due = some due → target < due) :
    recordTo target fuel s = ([], { s with now := target }) := by
  cases fuel with
  | zero => rfl
  | succ fuel =>
    unfold recordTo
    rcases ht : s.timer with _ | t
    · rfl
    · rcases hd : t.due with _ | due
      · simp only [hd]
      · have := h t due ht hd
        simp only [hd]
        exact if_neg (by omega)

theorem recordTo_of_due {target fuel : Nat} {t : Timer} {due : Nat} (ht : s.timer = some t)
    (hd : t.due = some due) (hle : due ≤ target) :
    recordTo target (fuel + 1) s =
      ((s.tick? t due).toList ++ (recordTo target fuel ({ s with now := due }.fire t)).1,
        (recordTo target fuel ({ s with now := due }.fire t)).2) := by
  rw [recordTo]
  simp only [ht, hd, if_pos hle]

omit [Effect R σ] in
/-- Either no timer is due until some time, or there is one, due after now. -/
theorem OnTime.later_or_due (hs : OnTime s) (time : Nat) :
    (∀ t due, s.timer = some t → t.due = some due → time < due) ∨
      ∃ due, s.timer = some ⟨s.generation, s.speed, some due⟩ ∧ s.now < due ∧ due ≤ time := by
  rcases ht : s.timer with _ | t
  · exact .inl fun _ _ h => by cases h
  · obtain ⟨-, due, rfl, hlt⟩ := hs.timer t ht
    rcases Nat.lt_or_ge time due with h | h
    · refine .inl fun _ _ h1 h2 => ?_
      cases h1
      cases h2
      exact h
    · exact .inr ⟨due, rfl, hlt, h⟩

/-- With enough fuel, more fuel makes no difference. -/
theorem recordTo_fuel {target fuel fuel' : Nat} (hs : OnTime s) (h : target ≤ s.now + fuel)
    (h' : target ≤ s.now + fuel') : recordTo target fuel s = recordTo target fuel' s := by
  induction fuel generalizing s fuel' with
  | zero =>
    rcases hs.later_or_due target with hl | ⟨due, -, hlt, hle⟩
    · rw [recordTo_of_later 0 hl, recordTo_of_later fuel' hl]
    · omega
  | succ fuel ih =>
    rcases hs.later_or_due target with hl | ⟨due, ht, hlt, hle⟩
    · rw [recordTo_of_later _ hl, recordTo_of_later fuel' hl]
    · -- the timer is due after now, so a unit of fuel pays for at least a millisecond
      obtain ⟨hs', hnow⟩ := hs.fire ht
      obtain ⟨n, rfl⟩ : ∃ n, fuel' = n + 1 := ⟨fuel' - 1, by omega⟩
      have hrest :
        recordTo target fuel ({ s with now := due }.fire ⟨s.generation, s.speed, some due⟩) =
          recordTo target n ({ s with now := due }.fire ⟨s.generation, s.speed, some due⟩) :=
        ih hs' (by omega) (by omega)
      rw [recordTo_of_due ht rfl hle, recordTo_of_due ht rfl hle, hrest]

/-- Nothing happens while no timer is due. -/
theorem record_of_later {ms : Nat}
    (h : ∀ t due, s.timer = some t → t.due = some due → s.now + ms < due) :
    s.record ms = ([], { s with now := s.now + ms }) := recordTo_of_later ms h

/-- A timer that is due fires at that time, and the rest of the time passes after that. -/
theorem record_of_due (hs : OnTime s) {ms due : Nat}
    (ht : s.timer = some ⟨s.generation, s.speed, some due⟩) (hle : due ≤ s.now + ms) :
    let s' := { s with now := due }.fire ⟨s.generation, s.speed, some due⟩
    s.record ms = (⟨due, s.policy, s.machine.tick.1⟩ :: (s'.record (s.now + ms - due)).1,
      (s'.record (s.now + ms - due)).2) := by
  intro s'
  obtain ⟨hr, due', hd, hlt⟩ := hs.timer _ ht
  cases hd
  obtain ⟨hs', hnow⟩ := hs.fire ht
  have htick : s.tick? ⟨s.generation, s.speed, some due⟩ due =
      some ⟨due, s.policy, s.machine.tick.1⟩ :=
    if_pos ⟨rfl, hr⟩
  have hrest : s'.record (s.now + ms - due) = recordTo (s.now + ms) (ms - 1) s' := by
    show recordTo (s'.now + (s.now + ms - due)) _ s' = _
    rw [show s'.now = due from hnow, show due + (s.now + ms - due) = s.now + ms by omega]
    exact recordTo_fuel hs' (by rw [hnow]; omega) (by rw [hnow]; omega)
  rw [hrest]
  obtain ⟨n, rfl⟩ : ∃ n, ms = n + 1 := ⟨ms - 1, by omega⟩
  exact (recordTo_of_due ht rfl hle).trans (by rw [htick]; rfl)

/-- Induction along the clock: what holds while no timer is due, and is kept by a timer that fires,
always holds. -/
theorem OnTime.record_induction {P : Nat → Scheduler R σ → Prop}
    (later : ∀ ms s, OnTime s →
      (∀ t due, s.timer = some t → t.due = some due → s.now + ms < due) → P ms s)
    (due : ∀ ms s due, OnTime s → s.timer = some ⟨s.generation, s.speed, some due⟩ →
      s.now < due → due ≤ s.now + ms →
      P (s.now + ms - due) ({ s with now := due }.fire ⟨s.generation, s.speed, some due⟩) → P ms s)
    (hs : OnTime s) (ms : Nat) : P ms s := by
  induction ms using Nat.strongRecOn generalizing s with
  | ind ms ih =>
    rcases hs.later_or_due (s.now + ms) with hl | ⟨d, ht, hlt, hle⟩
    · exact later ms s hs hl
    · exact due ms s d hs ht hlt hle (ih _ (by omega) (hs.fire ht).1)

theorem OnTime.record (hs : OnTime s) (ms : Nat) :
    OnTime (s.record ms).2 ∧ (s.record ms).2.now = s.now + ms := by
  refine hs.record_induction (P := fun ms s =>
    OnTime (s.record ms).2 ∧ (s.record ms).2.now = s.now + ms) ?_ ?_ ms
  · intro ms s hs hl
    rw [record_of_later hl]
    refine ⟨⟨hs.speed_pos, fun t ht => ?_⟩, rfl⟩
    obtain ⟨hr, due, rfl, -⟩ := hs.timer t ht
    exact ⟨hr, due, rfl, hl _ due ht rfl⟩
  · intro ms s due hs ht hlt hle ih
    obtain ⟨h1, h2⟩ := ih
    rw [record_of_due hs ht hle]
    refine ⟨h1, h2.trans ?_⟩
    rw [(hs.fire ht).2]
    omega

/-- The clock may stop anywhere before the timer is due. -/
theorem record_add_of_later (hs : OnTime s) {ms : Nat} (more : Nat)
    (hl : ∀ t due, s.timer = some t → t.due = some due → s.now + ms < due) :
    s.record (ms + more) = { s with now := s.now + ms }.record more := by
  have hs' : OnTime { s with now := s.now + ms } := by
    have := (hs.record ms).1
    rwa [record_of_later hl] at this
  rcases hs.later_or_due (s.now + (ms + more)) with hl' | ⟨due, ht, hlt, hle⟩
  · rw [record_of_later hl', record_of_later (s := { s with now := s.now + ms }), Nat.add_assoc]
    intro t due ht hd
    have := hl' t due ht hd
    show s.now + ms + more < due
    omega
  · rw [record_of_due hs ht hle, ← Nat.add_assoc]
    exact (record_of_due hs' ht (by rwa [Nat.add_assoc])).symm

/-- **Time passes the same in one go and in two.** -/
theorem record_add (hs : OnTime s) (ms more : Nat) :
    s.record (ms + more) =
      ((s.record ms).1 ++ ((s.record ms).2.record more).1, ((s.record ms).2.record more).2) := by
  refine hs.record_induction (P := fun ms s => s.record (ms + more) =
    ((s.record ms).1 ++ ((s.record ms).2.record more).1, ((s.record ms).2.record more).2)) ?_ ?_ ms
  · intro ms s hs hl
    rw [record_of_later hl, record_add_of_later hs more hl]
    rfl
  · intro ms s due hs ht hlt hle ih
    have hsub : s.now + (ms + more) - due = s.now + ms - due + more := by omega
    rw [record_of_due hs ht (Nat.le_trans hle (by omega)), record_of_due hs ht hle, hsub, ih]
    rfl

/-- While time passes, the machine is called by the ticks of the record and by nothing else. -/
theorem machine_record [Scalar R] (hs : OnTime s) (ms : Nat) :
    (s.record ms).2.machine = s.machine.calls ((s.record ms).1.flatMap Tick.calls) := by
  refine hs.record_induction (P := fun ms s =>
    (s.record ms).2.machine = s.machine.calls ((s.record ms).1.flatMap Tick.calls)) ?_ ?_ ms
  · intro ms s hs hl
    rw [record_of_later hl]
    rfl
  · intro ms s due hs ht hlt hle ih
    have hfire := machine_fire (s := { s with now := due }) (hs.timer _ ht).1
      (t := ⟨s.generation, s.speed, some due⟩) rfl
    rw [record_of_due hs ht hle, List.flatMap_cons, Machine.calls_append]
    exact ih.trans (by rw [hfire]; rfl)

end Passing

end LedStrip.Scheduler
