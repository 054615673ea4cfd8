import LedStrip.Proofs.Scheduler.Simulation

/-!
# Calls that set nothing

Starting, pausing, resuming, stopping and ticking set neither the interval nor a parameter.  They
are all that a scheduler does to its machine by itself: time that passes only makes ticks, and
pauses after ticks that fail (`controlled_advance`).
-/

namespace LedStrip

namespace Machine

variable {R σ : Type}

/-- A call that neither sets the interval nor a parameter. -/
def Call.IsControl : Call R → Prop
  | .setSpeed _ => False
  | .setConfig _ _ => False
  | _ => True

/-- A machine after some calls that set nothing. -/
def Controlled [Scalar R] [Effect R σ] (m m' : Machine R σ) : Prop :=
  ∃ cs : List (Call R), (∀ c ∈ cs, c.IsControl) ∧ m' = m.calls cs

variable [Scalar R] [Effect R σ] {m m' m'' : Machine R σ}

theorem Controlled.refl (m : Machine R σ) : m.Controlled m := ⟨[], by simp, rfl⟩

theorem Controlled.trans (h : m.Controlled m') (h' : m'.Controlled m'') : m.Controlled m'' := by
  obtain ⟨cs, hcs, rfl⟩ := h
  obtain ⟨ds, hds, rfl⟩ := h'
  refine ⟨cs ++ ds, fun c hc => ?_, (calls_append m cs ds).symm⟩
  rcases List.mem_append.mp hc with hc | hc
  · exact hcs c hc
  · exact hds c hc

theorem controlled_call (m : Machine R σ) {c : Call R} (h : c.IsControl) :
    m.Controlled (m.call c) :=
  ⟨[c], by simpa using h, rfl⟩

/-- What such calls keep, if each of them does. -/
theorem Controlled.induction {P : Machine R σ → Prop} (h : m.Controlled m')
    (hcall : ∀ (m : Machine R σ) (c : Call R), c.IsControl → P m → P (m.call c)) (hm : P m) :
    P m' := by
  obtain ⟨cs, hcs, rfl⟩ := h
  induction cs generalizing m with
  | nil => exact hm
  | cons c cs ih =>
    exact ih (hcall m c (hcs c List.mem_cons_self) hm) fun d hd =>
      hcs d (List.mem_cons_of_mem c hd)

theorem Controlled.speed (h : m.Controlled m') : m'.speed = m.speed := by
  refine h.induction (P := fun m' => m'.speed = m.speed) (fun m' c hc hm => ?_) rfl
  refine Eq.trans ?_ hm
  cases c with
  | start => exact speed_transition m' _ _
  | pause => exact speed_transition m' _ _
  | resume => exact speed_transition m' _ _
  | stop => rfl
  | tick => exact speed_tick m'
  | setSpeed ms => exact hc.elim
  | setConfig key v => exact hc.elim

end Machine

namespace Scheduler

variable {R σ : Type} [Scalar R] [Effect R σ]

open Machine (Controlled controlled_call)

theorem controlled_runTick (s : Scheduler R σ) : s.machine.Controlled s.runTick.2.machine := by
  have htick : s.machine.Controlled s.machine.tick.2 := controlled_call s.machine (c := .tick) trivial
  rcases h : s.machine.tick with ⟨e | goesOn, m⟩
  · rw [h] at htick
    rw [runTick_of_error h]
    by_cases hp : s.policy = .halt
    · rw [onTickError_of_halt (s := { s with machine := m }) hp]
      exact htick.trans (controlled_call m (c := .pause) trivial)
    · obtain ⟨_, _, he, -⟩ := onTickError_of_ne_halt (s := { s with machine := m }) hp e
      rw [he]
      exact htick
  · rw [h] at htick
    cases goesOn with
    | true => rw [runTick_of_ok h]; exact htick
    | false => rw [runTick_of_idle h]; exact htick

theorem controlled_fire (s : Scheduler R σ) (t : Timer) :
    s.machine.Controlled (s.fire t).machine := by
  show s.machine.Controlled (s.wake t.generation).2.machine
  unfold wake
  split
  · exact controlled_runTick s
  · exact .refl _

/-- Time that passes only makes ticks, and pauses after ticks that fail. -/
theorem controlled_advanceTo (target fuel : Nat) (s : Scheduler R σ) :
    s.machine.Controlled (advanceTo target fuel s).machine := by
  induction fuel generalizing s with
  | zero => exact .refl _
  | succ fuel ih =>
    unfold advanceTo
    split
    · next t _ =>
      split
      · next due _ =>
        split
        · exact (controlled_fire { s with now := due } t).trans (ih _)
        · exact .refl _
      · exact .refl _
    · exact .refl _

theorem controlled_advance (s : Scheduler R σ) (ms : Nat) :
    s.machine.Controlled (s.advance ms).machine := controlled_advanceTo _ ms s

theorem controlled_togglePause (s : Scheduler R σ) :
    s.machine.Controlled s.togglePause.2.machine := by
  have h := machine_apply s (.togglePause : Op R)
  refine ⟨Op.togglePause.calls s, fun c hc => ?_, h⟩
  simp only [Op.calls] at hc
  split at hc
  · rw [List.mem_singleton.mp hc]; trivial
  · rw [List.mem_singleton.mp hc]; trivial
  · cases hc

theorem answer_setConfig (s : Scheduler R σ) (key : String) (v : Json R) :
    (s.setConfig key v).1 = (s.machine.setConfig key v).1 := by
  unfold setConfig
  rcases s.machine.setConfig key v with ⟨_ | _, m⟩ <;> rfl

omit [Scalar R] [Effect R σ] in
theorem effect_setSpeed (s : Scheduler R σ) (ms : Nat) :
    (s.setSpeed ms).machine.effect = s.machine.effect := by
  unfold setSpeed
  dsimp only
  split <;> rfl

end Scheduler

end LedStrip
