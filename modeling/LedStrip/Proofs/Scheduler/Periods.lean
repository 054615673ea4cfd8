import LedStrip.Proofs.Scheduler.Clock
import LedStrip.Proofs.Scheduler.Errors

/-!
# Periods

A machine that does nothing but tick yields frames and errors, one for each tick
(`Machine.yields`).  A scheduler that is `Poised` has such a machine, a timer that is due in one
period, a subscriber and a receiver of errors.  When the period is over it has made one tick and has
sent the message for what the tick yielded; it is poised again, unless the tick failed and failing
ticks halt the machine (`Poised.period`).
-/

namespace LedStrip

namespace Machine

variable {R σ : Type} [Effect R σ]

/-- The machine after some ticks. -/
def ticked (m : Machine R σ) : Nat → Machine R σ
  | 0 => m
  | n + 1 => (m.ticked n).tick.2

/-- What the next tick comes to: the frame that it puts on the strip, or its error. -/
def yield (m : Machine R σ) : Except EffectError Frame := m.tick.1.map fun _ => m.tick.2.leds

/-- What the first ticks come to, in order. -/
def yields (m : Machine R σ) (n : Nat) : List (Except EffectError Frame) :=
  (List.range n).map fun i => (m.ticked i).yield

theorem yields_succ (m : Machine R σ) (n : Nat) :
    m.yields (n + 1) = m.yields n ++ [(m.ticked n).yield] := by
  rw [yields, List.range_succ, List.map_append]
  rfl

variable {m : Machine R σ}

theorem tick_of_yield_error {e : EffectError} (h : m.yield = .error e) : m.tick.1 = .error e := by
  unfold yield at h
  cases ht : m.tick.1 with
  | error e' =>
    rw [ht] at h
    cases h
    rfl
  | ok b =>
    rw [ht] at h
    cases h

/-- A running machine puts a frame on the strip with every tick that does not fail. -/
theorem tick_of_yield_ok (hr : m.status = .running) {f : Frame} (h : m.yield = .ok f) :
    m.tick.1 = .ok true ∧ m.tick.2.leds = f := by
  unfold yield at h
  rcases tick_of_running hr with ⟨g, -, ht⟩ | ⟨e, ht⟩
  · rw [ht] at h ⊢
    exact ⟨rfl, Except.ok.inj h⟩
  · rw [ht] at h
    cases h

end Machine

namespace Scheduler

variable {R σ : Type}

/-- A running machine whose timer is due in one period, observed by a subscriber to frames and a
receiver of errors. -/
structure Poised (policy : TickPolicy) (subscriber receiver : Nat) (m : Machine R σ)
    (s : Scheduler R σ) : Prop where
  machine_eq : s.machine = m
  running : m.status = .running
  speed_pos : 1 ≤ m.speed
  policy_eq : s.policy = policy
  timer_eq : s.timer = some ⟨s.generation, m.speed, some (s.now + m.speed)⟩
  subscribers_eq : s.subscribers = [subscriber]
  listening : s.Listening receiver

/-- What observers are sent for a tick. -/
def tickMessages (policy : TickPolicy) (subscriber receiver : Nat) :
    Except EffectError Frame → List Event
  | .ok f => [.frame subscriber f]
  | .error e =>
    match policy with
    | .halt => [.status .paused]
    | .skipFrame => []
    | .propagate => [.error receiver e]

/-- The machine was halted by an error. -/
structure HaltedBy (e : EffectError) (m : Machine R σ) (s : Scheduler R σ) : Prop where
  machine_eq : s.machine = { m with status := .paused }
  lastError_eq : s.lastError = some e

variable [Effect R σ] {policy : TickPolicy} {subscriber receiver : Nat} {m : Machine R σ}
  {s : Scheduler R σ}

omit [Effect R σ] in
/-- A new scheduler with its observers is poised as soon as it is started. -/
theorem poised_start (hidle : m.status = .idle) (hspeed : 1 ≤ m.speed) (policy : TickPolicy) :
    let s := (create m policy).subscribe.2.takeErrors.2.start.2
    s.Poised policy 0 0 m.start.2 ∧ s.outbox.toList = [.status .running] := by
  have hmachine : m.start.2 = { m with status := .running } :=
    congrArg Prod.snd (Machine.transition_of_eq _ hidle)
  have hstarted := congrArg Prod.snd
    (start_of_idle (s := (create m policy).subscribe.2.takeErrors.2) hidle)
  dsimp only
  rw [hstarted, hmachine]
  exact ⟨⟨rfl, rfl, hspeed, rfl, rfl, rfl, rfl, List.not_mem_nil⟩, rfl⟩

/-- In one period the timer fires once. -/
theorem Poised.advance_eq (h : s.Poised policy subscriber receiver m) :
    s.advance s.speed =
      { s with now := s.now + m.speed }.fire ⟨s.generation, m.speed, some (s.now + m.speed)⟩ := by
  have hspeed : s.speed = m.speed := congrArg Machine.speed h.machine_eq
  have hontime : OnTime s := by
    refine ⟨hspeed ▸ h.speed_pos, fun t ht => ?_⟩
    rw [h.timer_eq] at ht
    cases ht
    have hpos := h.speed_pos
    exact ⟨(congrArg Machine.status h.machine_eq).trans h.running, s.now + m.speed, by rw [hspeed],
      by omega⟩
  have htimer : s.timer = some ⟨s.generation, s.speed, some (s.now + s.speed)⟩ := by
    rw [hspeed]
    exact h.timer_eq
  have hrecord := record_of_due hontime htimer (Nat.le_refl _)
  rw [← record_eq, hrecord, Nat.sub_self, ← hspeed]
  rfl

omit [Effect R σ] in
/-- It does not matter what the observers have been sent. -/
theorem Poised.withOutbox (h : s.Poised policy subscriber receiver m) (outbox : Array Event) :
    Poised policy subscriber receiver m { s with outbox } :=
  ⟨h.machine_eq, h.running, h.speed_pos, h.policy_eq, h.timer_eq, h.subscribers_eq, h.listening⟩

omit [Effect R σ] in
/-- A timer that goes on is due again in one period. -/
theorem Poised.goesOn (h : s.Poised policy subscriber receiver m) {m' : Machine R σ}
    {s' : Scheduler R σ} (hm : m'.status = m.status ∧ m'.speed = m.speed)
    (hmachine : s'.machine = m') (hgeneration : s'.generation = s.generation)
    (htimer : s'.timer = s.timer.map fun t => { t with due := some (s'.now + t.period) })
    (hobservers : s'.policy = s.policy ∧ s'.subscribers = s.subscribers)
    (hlistening : s'.Listening receiver) : s'.Poised policy subscriber receiver m' where
  machine_eq := hmachine
  running := hm.1.trans h.running
  speed_pos := hm.2 ▸ h.speed_pos
  policy_eq := hobservers.1.trans h.policy_eq
  timer_eq := by
    rw [htimer, h.timer_eq, hgeneration, hm.2]
    rfl
  subscribers_eq := hobservers.2.trans h.subscribers_eq
  listening := hlistening

/-- **One period** makes one tick and sends what is to be sent for it.  Then the scheduler is poised
for the next, unless it was halted. -/
theorem Poised.period (h : s.Poised policy subscriber receiver m) :
    (s.advance s.speed).outbox.toList =
        s.outbox.toList ++ tickMessages policy subscriber receiver m.yield ∧
      ((s.advance s.speed).Poised policy subscriber receiver m.tick.2 ∧
          (policy = .halt → m.yield.isOk = true) ∨
        policy = .halt ∧ ∃ e, m.yield = .error e ∧ (s.advance s.speed).HaltedBy e m.tick.2) := by
  obtain rfl : s.machine = m := h.machine_eq
  have hr : s.machine.status = .running := h.running
  let due : Scheduler R σ := { s with now := s.now + s.machine.speed }
  let t : Timer := ⟨s.generation, s.machine.speed, some (s.now + s.machine.speed)⟩
  have hadvance : s.advance s.speed = due.fire t := h.advance_eq
  have hg : t.generation = due.generation := rfl
  have hkept : s.machine.tick.2.status = s.machine.status ∧
      s.machine.tick.2.speed = s.machine.speed :=
    ⟨Machine.status_tick s.machine, Machine.speed_tick s.machine⟩
  cases hy : s.machine.yield with
  | ok f =>
    obtain ⟨htick, rfl⟩ := Machine.tick_of_yield_ok hr hy
    have hfire : due.fire t = due.firedWith s.machine.tick.2.leds := fire_of_ok hg htick
    rw [hadvance, hfire]
    refine ⟨?_, .inl ⟨h.goesOn hkept rfl rfl rfl ⟨rfl, rfl⟩ h.listening, fun _ => rfl⟩⟩
    show (List.foldl _ s.outbox s.subscribers).toList = _
    rw [h.subscribers_eq, List.foldl_push_eq_append, Array.toList_append]
    rfl
  | error e =>
    have htick := Machine.tick_of_yield_error hy
    cases policy with
    | halt =>
      rw [hadvance, fire_of_error_halt (s := due) hr hg h.policy_eq htick]
      refine ⟨?_, .inr ⟨rfl, e, rfl, ⟨rfl, rfl⟩⟩⟩
      show (s.outbox.push _).toList = _
      rw [Array.toList_push]
      rfl
    | skipFrame =>
      rw [hadvance, fire_of_error_skip (s := due) hg h.policy_eq htick]
      refine ⟨(List.append_nil _).symm, .inl ⟨?_, fun hhalt => nomatch hhalt⟩⟩
      exact h.goesOn hkept rfl rfl rfl ⟨rfl, rfl⟩ h.listening
    | propagate =>
      rw [hadvance, fire_of_error_propagate (s := due) hg h.policy_eq htick,
        sendError_of_listening (s := due) h.listening]
      refine ⟨?_, .inl ⟨?_, fun hhalt => nomatch hhalt⟩⟩
      · show (s.outbox.push _).toList = _
        rw [Array.toList_push]
        rfl
      · exact h.goesOn hkept rfl rfl rfl ⟨rfl, rfl⟩ h.listening

end Scheduler
end LedStrip
