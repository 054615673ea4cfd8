import LedStrip.Proofs.Scheduler.Beat
import LedStrip.Proofs.Scheduler.Errors
import LedStrip.Proofs.Scheduler.Subscriptions

/-!
# What ticks depend on

The later ticks of a scheduler depend on its clockwork alone (`SameClockwork.ticks_eq`): on the timer,
the policy, the machine and its effect, but neither on the frame that is on the strip nor on anything
that belongs to observers.
-/

namespace LedStrip

variable {R σ : Type}

namespace Machine

/-- The same machine with nothing on the strip. -/
def dark (m : Machine R σ) : Machine R σ := { m with leds := Frame.blank 0 }

variable [Effect R σ]

/-- The frame on the strip makes no difference to a tick. -/
theorem dark_tick (m : Machine R σ) :
    m.dark.tick.1 = m.tick.1 ∧ m.dark.tick.2.dark = m.tick.2.dark := by
  by_cases hr : m.status = .running
  · cases ha : (Effect.onTick R m.effect m.ledCount).1 with
    | error e =>
      rw [tick_of_hook_error hr ha, tick_of_hook_error (m := m.dark) hr ha]
      exact ⟨rfl, rfl⟩
    | ok f =>
      by_cases hf : f.size = Frame.byteCount m.ledCount
      · rw [tick_of_size_eq hr ha hf, tick_of_size_eq (m := m.dark) hr ha hf]
        exact ⟨rfl, rfl⟩
      · rw [tick_of_size_ne hr ha hf, tick_of_size_ne (m := m.dark) hr ha hf]
        exact ⟨rfl, rfl⟩
  · rw [tick_of_not_running hr, tick_of_not_running (m := m.dark) hr]
    exact ⟨rfl, rfl⟩

omit [Effect R σ] in
theorem dark_transition (m : Machine R σ) (source target : Status) :
    (m.dark.transition source target).2.dark = (m.transition source target).2.dark := by
  by_cases h : m.status = source
  · rw [transition_of_eq target h, transition_of_eq (m := m.dark) target h]; rfl
  · rw [transition_of_ne target h, transition_of_ne (m := m.dark) target h]; rfl

theorem dark_setConfig [Scalar R] (m : Machine R σ) (key : String) (v : Json R) :
    (m.dark.setConfig key v).2.dark = (m.setConfig key v).2.dark := by
  by_cases hk : key = "speed"
  · subst hk
    cases hv : speedValue v with
    | error e => rw [setConfig_speed_error m hv, setConfig_speed_error m.dark hv]; rfl
    | ok ms => rw [setConfig_speed_ok m hv, setConfig_speed_ok m.dark hv]; rfl
  · rw [setConfig_of_ne m hk, setConfig_of_ne m.dark hk]
    rfl

/-- The frame on the strip makes no difference to what a call does to the rest. -/
theorem dark_call [Scalar R] (m : Machine R σ) (c : Call R) :
    (m.dark.call c).dark = (m.call c).dark := by
  cases c with
  | start => exact dark_transition m .idle .running
  | pause => exact dark_transition m .running .paused
  | resume => exact dark_transition m .paused .running
  | stop => rfl
  | tick => exact (dark_tick m).2
  | setSpeed ms => rfl
  | setConfig key v => exact dark_setConfig m key v

/-- Nothing that a scheduler sees of a machine depends on the frame on the strip. -/
theorem bisimulation_dark [Scalar R] :
    Bisimulation (R := R) (σ := σ) fun m m' => m.dark = m'.dark where
  status {m m'} h := show m.dark.status = m'.dark.status by rw [h]
  speed {m m'} h := show m.dark.speed = m'.dark.speed by rw [h]
  answer {m m'} h := by rw [← (dark_tick m).1, ← (dark_tick m').1, h]
  withStatus st h := congrArg (fun m => ({ m with status := st } : Machine R σ)) h
  call {m m'} c h := by rw [← dark_call m, ← dark_call m', h]

end Machine

namespace Scheduler

/-- Schedulers that differ in observers and in the frame on the strip at most. -/
abbrev SameClockwork (s s' : Scheduler R σ) : Prop := Lockstep (fun m m' => m.dark = m'.dark) s s'

namespace SameClockwork

variable [Scalar R] [Effect R σ] {s s' : Scheduler R σ}

theorem status (h : SameClockwork s s') : s.status = s'.status :=
  Machine.bisimulation_dark.status h.machine

theorem tick?_eq (h : SameClockwork s s') (t : Timer) (time : Nat) :
    s.tick? t time = s'.tick? t time := by
  have hanswer : s.machine.tick.1 = s'.machine.tick.1 := Machine.bisimulation_dark.answer h.machine
  unfold tick?
  rw [hanswer, h.status, h.generation, h.policy]

theorem recordTo (h : SameClockwork s s') (target fuel : Nat) :
    (recordTo target fuel s).1 = (recordTo target fuel s').1 ∧
      SameClockwork (recordTo target fuel s).2 (recordTo target fuel s').2 := by
  induction fuel generalizing s s' with
  | zero => exact ⟨rfl, h.setNow target⟩
  | succ fuel ih =>
    by_cases hdue : ∃ t due, s.timer = some t ∧ t.due = some due ∧ due ≤ target
    · obtain ⟨t, due, ht, hd, hle⟩ := hdue
      obtain ⟨h1, h2⟩ := ih ((h.setNow due).fire Machine.bisimulation_dark t)
      rw [recordTo_of_due ht hd hle, recordTo_of_due (h.timer ▸ ht) hd hle, h.tick?_eq t due, h1]
      exact ⟨rfl, h2⟩
    · have hlater (t : Timer) (due : Nat) (ht : s.timer = some t) (hd : t.due = some due) :
          target < due := Nat.lt_of_not_le fun hle => hdue ⟨t, due, ht, hd, hle⟩
      rw [recordTo_of_later _ hlater, recordTo_of_later _ (h.timer ▸ hlater)]
      exact ⟨rfl, h.setNow target⟩

theorem timedStep (h : SameClockwork s s') (a : TimedStep R) :
    s.stepTicks a = s'.stepTicks a ∧ SameClockwork (s.timedStep a) (s'.timedStep a) := by
  cases a with
  | op op => exact ⟨rfl, h.apply Machine.bisimulation_dark op⟩
  | advance ms =>
    rw [timedStep_advance, timedStep_advance]
    unfold stepTicks record
    rw [h.now]
    exact h.recordTo _ ms

/-- **The later ticks depend on the clockwork alone**: their times, policies and answers. -/
theorem ticks_eq (h : SameClockwork s s') (steps : List (TimedStep R)) :
    s.ticks steps = s'.ticks steps := by
  induction steps generalizing s s' with
  | nil => rfl
  | cons a steps ih =>
    obtain ⟨hticks, hnext⟩ := h.timedStep a
    rw [ticks, ticks, hticks, ih hnext]

end SameClockwork
end Scheduler
end LedStrip
