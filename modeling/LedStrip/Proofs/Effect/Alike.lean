import LedStrip.Proofs.Effect.Calls

/-!
# Effects that behave alike

`Simulates` says that the hooks of two effects answer alike from related states and get to related
states.  Machines around such effects cannot be told apart: every call answers the same and leaves
the same status, interval and frame (`Alike.call`), and so does every list of calls
(`Alike.trace_eq`).
-/

namespace LedStrip

variable {R σ τ : Type}

/-- A relation between the states of two effects that the hooks keep and from which they answer
alike, on a strip of `ledCount` LEDs and for parameters that are `allowed`. -/
structure Simulates [Effect R σ] [Effect R τ] (ledCount : Nat) (allowed : String → Json R → Prop)
    (r : σ → τ → Prop) : Prop where
  onTick : ∀ {s t}, r s t →
    (Effect.onTick R s ledCount).1 = (Effect.onTick R t ledCount).1 ∧
      r (Effect.onTick R s ledCount).2 (Effect.onTick R t ledCount).2
  onReset : ∀ {s t}, r s t →
    (Effect.onReset R s).1 = (Effect.onReset R t).1 ∧
      r (Effect.onReset R s).2 (Effect.onReset R t).2
  onSetConfig : ∀ {s t key v}, r s t → key ≠ "speed" → allowed key v →
    (Effect.onSetConfig s key v).1 = (Effect.onSetConfig t key v).1 ∧
      r (Effect.onSetConfig s key v).2 (Effect.onSetConfig t key v).2

namespace Machine

/-- What a call tells its caller. -/
inductive Answer where
  | moved (changed : Bool)
  | ticked (answer : Except EffectError Bool)
  | done (answer : Except EffectError Unit)

/-- What a machine shows. -/
structure Snapshot where
  status : Status
  speed : Nat
  ledCount : Nat
  leds : Frame

def snapshot (m : Machine R σ) : Snapshot := ⟨m.status, m.speed, m.ledCount, m.leds⟩

section Definitions

variable [Scalar R] [Effect R σ]

/-- The answer to a call. -/
def answer (m : Machine R σ) : Call R → Answer
  | .start => .moved m.start.1
  | .pause => .moved m.pause.1
  | .resume => .moved m.resume.1
  | .stop => .done m.stop.1
  | .tick => .ticked m.tick.1
  | .setSpeed _ => .done (.ok ())
  | .setConfig key v => .done (m.setConfig key v).1

/-- What can be seen of a machine during some calls: each answer and what is shown after it. -/
def trace (m : Machine R σ) : List (Call R) → List (Answer × Snapshot)
  | [] => []
  | c :: cs => (m.answer c, (m.call c).snapshot) :: (m.call c).trace cs

end Definitions

/-- Whether a call keeps to the parameters that are allowed. -/
def Call.Within (allowed : String → Json R → Prop) : Call R → Prop
  | .setConfig key v => key ≠ "speed" → allowed key v
  | _ => True

/-- Machines that show the same, at first and whatever is done with them within what is allowed. -/
structure Indistinguishable [Scalar R] [Effect R σ] [Effect R τ] (allowed : String → Json R → Prop)
    (m : Machine R σ) (m' : Machine R τ) : Prop where
  shown : m.snapshot = m'.snapshot
  trace_eq : ∀ cs : List (Call R), (∀ c ∈ cs, c.Within allowed) → m.trace cs = m'.trace cs

/-- Machines that show the same and whose effects are related. -/
structure Alike (r : σ → τ → Prop) (m : Machine R σ) (m' : Machine R τ) : Prop where
  shown : m.snapshot = m'.snapshot
  effect : r m.effect m'.effect

variable {r : σ → τ → Prop} {m : Machine R σ} {m' : Machine R τ}

theorem Alike.status (h : Alike r m m') : m.status = m'.status :=
  congrArg Snapshot.status h.shown

theorem Alike.speed (h : Alike r m m') : m.speed = m'.speed := congrArg Snapshot.speed h.shown

theorem Alike.ledCount (h : Alike r m m') : m.ledCount = m'.ledCount :=
  congrArg Snapshot.ledCount h.shown

theorem Alike.leds (h : Alike r m m') : m.leds = m'.leds := congrArg Snapshot.leds h.shown

theorem alike_create (id id' : String) (ledCount speed : Nat) {s : σ} {t : τ} (h : r s t) :
    Alike r (create id ledCount speed s : Machine R σ) (create id' ledCount speed t) := ⟨rfl, h⟩

theorem Alike.transition (h : Alike r m m') (source target : Status) :
    (m.transition source target).1 = (m'.transition source target).1 ∧
      Alike r (m.transition source target).2 (m'.transition source target).2 := by
  by_cases hs : m.status = source
  · rw [transition_of_eq target hs, transition_of_eq target (h.status ▸ hs)]
    exact ⟨rfl, by simp [snapshot, h.speed, h.ledCount, h.leds], h.effect⟩
  · rw [transition_of_ne target hs, transition_of_ne target (h.status ▸ hs)]
    exact ⟨rfl, h⟩

variable [Scalar R] [Effect R σ] [Effect R τ] {allowed : String → Json R → Prop}

omit [Scalar R] in
theorem Alike.tick (hr : Simulates m.ledCount allowed r) (h : Alike r m m') :
    m.tick.1 = m'.tick.1 ∧ Alike r m.tick.2 m'.tick.2 := by
  by_cases hs : m.status = .running
  · have hs' : m'.status = .running := h.status ▸ hs
    obtain ⟨h1, h2⟩ := hr.onTick h.effect
    rw [h.ledCount] at h1 h2
    cases ha : (Effect.onTick R m'.effect m'.ledCount).1 with
    | error e =>
      rw [tick_of_hook_error hs (h.ledCount ▸ h1.trans ha), tick_of_hook_error hs' ha]
      exact ⟨rfl, h.shown, h.ledCount ▸ h2⟩
    | ok f =>
      have ha' : (Effect.onTick R m.effect m.ledCount).1 = .ok f := h.ledCount ▸ h1.trans ha
      by_cases hf : f.size = Frame.byteCount m'.ledCount
      · rw [tick_of_size_eq hs ha' (h.ledCount ▸ hf), tick_of_size_eq hs' ha hf]
        exact ⟨rfl, by simp [snapshot, h.status, h.speed, h.ledCount], h.ledCount ▸ h2⟩
      · rw [tick_of_size_ne hs ha' (h.ledCount ▸ hf), tick_of_size_ne hs' ha hf]
        exact ⟨by simp only [h.ledCount], h.shown, h.ledCount ▸ h2⟩
  · rw [tick_of_not_running hs, tick_of_not_running (h.status ▸ hs)]
    exact ⟨rfl, h⟩

omit [Scalar R] in
theorem Alike.stop (hr : Simulates m.ledCount allowed r) (h : Alike r m m') :
    m.stop.1 = m'.stop.1 ∧ Alike r m.stop.2 m'.stop.2 := by
  obtain ⟨h1, h2⟩ := hr.onReset h.effect
  exact ⟨h1, by simp [snapshot, Machine.stop, h.speed, h.ledCount], h2⟩

theorem Alike.setConfig (hr : Simulates m.ledCount allowed r) (h : Alike r m m') {key : String}
    {v : Json R} (ha : key ≠ "speed" → allowed key v) :
    (m.setConfig key v).1 = (m'.setConfig key v).1 ∧
      Alike r (m.setConfig key v).2 (m'.setConfig key v).2 := by
  by_cases hk : key = "speed"
  · subst hk
    cases hv : speedValue v with
    | error e =>
      rw [setConfig_speed_error m hv, setConfig_speed_error m' hv]
      exact ⟨rfl, h⟩
    | ok ms =>
      rw [setConfig_speed_ok m hv, setConfig_speed_ok m' hv]
      exact ⟨rfl, by simp [snapshot, setSpeed, h.status, h.ledCount, h.leds], h.effect⟩
  · obtain ⟨h1, h2⟩ := hr.onSetConfig h.effect hk (ha hk)
    rw [setConfig_of_ne m hk, setConfig_of_ne m' hk]
    exact ⟨h1, h.shown, h2⟩

/-- A call answers the same on machines that are alike, and leaves them alike. -/
theorem Alike.call (hr : Simulates m.ledCount allowed r) (h : Alike r m m') {c : Call R}
    (hc : c.Within allowed) : m.answer c = m'.answer c ∧ Alike r (m.call c) (m'.call c) := by
  cases c with
  | start => exact (h.transition _ _).imp_left (congrArg Answer.moved)
  | pause => exact (h.transition _ _).imp_left (congrArg Answer.moved)
  | resume => exact (h.transition _ _).imp_left (congrArg Answer.moved)
  | stop => exact (h.stop hr).imp_left (congrArg Answer.done)
  | tick => exact (h.tick hr).imp_left (congrArg Answer.ticked)
  | setSpeed ms =>
    exact ⟨rfl, by simp [snapshot, Machine.call, setSpeed, h.status, h.ledCount, h.leds], h.effect⟩
  | setConfig key v => exact (h.setConfig hr hc).imp_left (congrArg Answer.done)

theorem Alike.calls (hr : Simulates m.ledCount allowed r) (h : Alike r m m') {cs : List (Call R)}
    (hc : ∀ c ∈ cs, c.Within allowed) : Alike r (m.calls cs) (m'.calls cs) := by
  induction cs generalizing m m' with
  | nil => exact h
  | cons c cs ih =>
    have hcall := (h.call hr (hc c List.mem_cons_self)).2
    exact ih ((ledCount_call m c).symm ▸ hr) hcall fun d hd => hc d (List.mem_cons_of_mem c hd)

/-- **Machines that are alike cannot be told apart.** -/
theorem Alike.trace_eq (hr : Simulates m.ledCount allowed r) (h : Alike r m m')
    {cs : List (Call R)} (hc : ∀ c ∈ cs, c.Within allowed) : m.trace cs = m'.trace cs := by
  induction cs generalizing m m' with
  | nil => rfl
  | cons c cs ih =>
    obtain ⟨hanswer, hcall⟩ := h.call hr (hc c List.mem_cons_self)
    have htail : (m.call c).trace cs = (m'.call c).trace cs :=
      ih ((ledCount_call m c).symm ▸ hr) hcall fun d hd => hc d (List.mem_cons_of_mem c hd)
    rw [trace, trace, hanswer, hcall.shown, htail]

theorem Alike.indistinguishable (hr : Simulates m.ledCount allowed r) (h : Alike r m m') :
    m.Indistinguishable allowed m' := ⟨h.shown, fun _ hc => h.trace_eq hr hc⟩

end Machine
end LedStrip
