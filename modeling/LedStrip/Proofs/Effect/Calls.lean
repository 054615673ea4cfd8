import LedStrip.Effect.Blink

/-!
# Calls of a machine

Everything a machine goes through is a list of calls.  `Machine.calls` carries them out one after
the other and `Machine.frames` lists the frames that its ticks put on the strip.  The lemmas say
once what a tick can do (`tick_of_running`) and what no call changes.
-/

namespace LedStrip.Machine

variable {R σ : Type} [Scalar R] [Effect R σ]

/-- One call of a machine. -/
inductive Call (R : Type) where
  | start
  | pause
  | resume
  | stop
  | tick
  | setSpeed (ms : Nat)
  | setConfig (key : String) (v : Json R)

/-- The machine after a call. -/
def call (m : Machine R σ) : Call R → Machine R σ
  | .start => m.start.2
  | .pause => m.pause.2
  | .resume => m.resume.2
  | .stop => m.stop.2
  | .tick => m.tick.2
  | .setSpeed ms => m.setSpeed ms
  | .setConfig key v => (m.setConfig key v).2

/-- The machine after some calls, in order. -/
def calls (m : Machine R σ) (cs : List (Call R)) : Machine R σ := cs.foldl call m

omit [Scalar R] in
/-- The frame that a call puts on the strip: the one there right after a tick that had a frame. -/
def frame? (m : Machine R σ) : Call R → Option Frame
  | .tick =>
    match m.tick.1 with
    | .ok true => some m.tick.2.leds
    | _ => none
  | _ => none

/-- The frames that some calls put on the strip, in order. -/
def frames (m : Machine R σ) : List (Call R) → List Frame
  | [] => []
  | c :: cs => (m.frame? c).toList ++ (m.call c).frames cs

/-- A machine that was created and then used. -/
def Used (m : Machine R σ) : Prop :=
  ∃ id ledCount speed effect cs, m = (create id ledCount speed effect : Machine R σ).calls cs

@[simp] theorem calls_nil (m : Machine R σ) : m.calls [] = m := rfl

@[simp] theorem calls_cons (m : Machine R σ) (c : Call R) (cs : List (Call R)) :
    m.calls (c :: cs) = (m.call c).calls cs := rfl

theorem calls_append (m : Machine R σ) (cs ds : List (Call R)) :
    m.calls (cs ++ ds) = (m.calls cs).calls ds := List.foldl_append

theorem frames_append (m : Machine R σ) (cs ds : List (Call R)) :
    m.frames (cs ++ ds) = m.frames cs ++ (m.calls cs).frames ds := by
  induction cs generalizing m with
  | nil => rfl
  | cons c cs ih => simp only [List.cons_append, frames, calls_cons, ih, List.append_assoc]

/-! ### Transitions -/

section Transitions

omit [Scalar R] [Effect R σ]

theorem transition_of_eq {m : Machine R σ} {source : Status} (target : Status)
    (h : m.status = source) : m.transition source target = (true, { m with status := target }) :=
  if_pos h

theorem transition_of_ne {m : Machine R σ} {source : Status} (target : Status)
    (h : m.status ≠ source) : m.transition source target = (false, m) := if_neg h

@[simp] theorem speed_transition (m : Machine R σ) (source target : Status) :
    (m.transition source target).2.speed = m.speed := by
  unfold transition; split <;> rfl

@[simp] theorem ledCount_transition (m : Machine R σ) (source target : Status) :
    (m.transition source target).2.ledCount = m.ledCount := by
  unfold transition; split <;> rfl

@[simp] theorem effect_transition (m : Machine R σ) (source target : Status) :
    (m.transition source target).2.effect = m.effect := by
  unfold transition; split <;> rfl

end Transitions

/-! ### Ticks -/

section Ticks

omit [Scalar R]

theorem tick_of_hook_error {m : Machine R σ} (h : m.status = .running) {e : EffectError}
    (he : (Effect.onTick R m.effect m.ledCount).1 = .error e) :
    m.tick = (.error e, { m with effect := (Effect.onTick R m.effect m.ledCount).2 }) := by
  unfold tick
  rw [if_pos h]
  simp only [he]

theorem tick_of_size_eq {m : Machine R σ} (h : m.status = .running) {f : Frame}
    (hf : (Effect.onTick R m.effect m.ledCount).1 = .ok f)
    (hs : f.size = Frame.byteCount m.ledCount) :
    m.tick = (.ok true, { m with leds := f, effect := (Effect.onTick R m.effect m.ledCount).2 }) := by
  unfold tick
  rw [if_pos h]
  simp only [hf, if_pos hs]

theorem tick_of_size_ne {m : Machine R σ} (h : m.status = .running) {f : Frame}
    (hf : (Effect.onTick R m.effect m.ledCount).1 = .ok f)
    (hs : f.size ≠ Frame.byteCount m.ledCount) :
    m.tick = (.error (.frameSize (Frame.byteCount m.ledCount) f.size),
      { m with effect := (Effect.onTick R m.effect m.ledCount).2 }) := by
  unfold tick
  rw [if_pos h]
  simp only [hf, if_neg hs]

/-- **What a tick of a running machine can do.**  The effect moves on either way; only a frame of
the right size gets on the strip, and nothing else of the machine changes. -/
theorem tick_of_running {m : Machine R σ} (h : m.status = .running) :
    (∃ f : Frame, f.size = Frame.byteCount m.ledCount ∧ m.tick =
        (.ok true, { m with leds := f, effect := (Effect.onTick R m.effect m.ledCount).2 })) ∨
      ∃ e, m.tick = (.error e, { m with effect := (Effect.onTick R m.effect m.ledCount).2 }) := by
  cases ha : (Effect.onTick R m.effect m.ledCount).1 with
  | error e => exact .inr ⟨e, tick_of_hook_error h ha⟩
  | ok f =>
    by_cases hf : f.size = Frame.byteCount m.ledCount
    · exact .inl ⟨f, hf, tick_of_size_eq h ha hf⟩
    · exact .inr ⟨_, tick_of_size_ne h ha hf⟩

theorem tick_of_not_running {m : Machine R σ} (h : m.status ≠ .running) :
    m.tick = (.ok false, m) := if_neg h

/-- A tick changes the frame and the effect at most. -/
theorem tick_eq (m : Machine R σ) : ∃ leds effect, m.tick.2 = { m with leds, effect } := by
  by_cases h : m.status = .running
  · rcases tick_of_running h with ⟨f, -, hf⟩ | ⟨e, he⟩
    · exact ⟨f, _, congrArg Prod.snd hf⟩
    · exact ⟨m.leds, _, congrArg Prod.snd he⟩
  · exact ⟨m.leds, m.effect, congrArg Prod.snd (tick_of_not_running h)⟩

@[simp] theorem status_tick (m : Machine R σ) : m.tick.2.status = m.status := by
  obtain ⟨_, _, h⟩ := tick_eq m
  rw [h]

@[simp] theorem speed_tick (m : Machine R σ) : m.tick.2.speed = m.speed := by
  obtain ⟨_, _, h⟩ := tick_eq m
  rw [h]

@[simp] theorem ledCount_tick (m : Machine R σ) : m.tick.2.ledCount = m.ledCount := by
  obtain ⟨_, _, h⟩ := tick_eq m
  rw [h]

end Ticks

/-! ### Settings -/

/-- `setConfig` touches the interval under the key `speed` only, and nothing but the effect under
any other key. -/
theorem setConfig_of_ne (m : Machine R σ) {key : String} (h : key ≠ "speed") (v : Json R) :
    m.setConfig key v =
      ((Effect.onSetConfig m.effect key v).1,
        { m with effect := (Effect.onSetConfig m.effect key v).2 }) := by
  unfold setConfig; rw [if_neg h]

theorem setConfig_speed_ok (m : Machine R σ) {v : Json R} {ms : Nat} (h : speedValue v = .ok ms) :
    m.setConfig "speed" v = (.ok (), m.setSpeed ms) := by
  unfold setConfig; rw [if_pos rfl, h]

theorem setConfig_speed_error (m : Machine R σ) {v : Json R} {e : EffectError}
    (h : speedValue v = .error e) : m.setConfig "speed" v = (.error e, m) := by
  unfold setConfig; rw [if_pos rfl, h]

/-- A parameter changes the effect or sets the interval, and nothing else. -/
theorem setConfig_cases (m : Machine R σ) (key : String) (v : Json R) :
    (∃ effect, (m.setConfig key v).2 = { m with effect }) ∨
      ∃ ms, m.setConfig key v = (.ok (), m.setSpeed ms) := by
  by_cases hk : key = "speed"
  · subst hk
    cases h : speedValue v with
    | error e => exact .inl ⟨m.effect, congrArg Prod.snd (setConfig_speed_error m h)⟩
    | ok ms => exact .inr ⟨ms, setConfig_speed_ok m h⟩
  · exact .inl ⟨_, congrArg Prod.snd (setConfig_of_ne m hk v)⟩

@[simp] theorem status_setConfig (m : Machine R σ) (key : String) (v : Json R) :
    (m.setConfig key v).2.status = m.status := by
  rcases setConfig_cases m key v with ⟨_, h⟩ | ⟨_, h⟩
  · rw [h]
  · rw [h]; rfl

@[simp] theorem ledCount_setConfig (m : Machine R σ) (key : String) (v : Json R) :
    (m.setConfig key v).2.ledCount = m.ledCount := by
  rcases setConfig_cases m key v with ⟨_, h⟩ | ⟨_, h⟩
  · rw [h]
  · rw [h]; rfl

/-- A value that is refused leaves the interval alone. -/
theorem speed_setConfig_of_error {m : Machine R σ} {key : String} {v : Json R} {e : EffectError}
    (h : (m.setConfig key v).1 = .error e) : (m.setConfig key v).2.speed = m.speed := by
  rcases setConfig_cases m key v with ⟨_, hs⟩ | ⟨_, hs⟩
  · rw [hs]
  · rw [hs] at h
    cases h

/-! ### What no call changes -/

@[simp] theorem ledCount_call (m : Machine R σ) (c : Call R) :
    (m.call c).ledCount = m.ledCount := by
  cases c with
  | start => exact ledCount_transition m _ _
  | pause => exact ledCount_transition m _ _
  | resume => exact ledCount_transition m _ _
  | stop => rfl
  | tick => exact ledCount_tick m
  | setSpeed ms => rfl
  | setConfig key v => exact ledCount_setConfig m key v

@[simp] theorem ledCount_calls (m : Machine R σ) (cs : List (Call R)) :
    (m.calls cs).ledCount = m.ledCount := by
  induction cs generalizing m with
  | nil => rfl
  | cons c cs ih => rw [calls_cons, ih, ledCount_call]

theorem speed_pos_call {m : Machine R σ} (h : 1 ≤ m.speed) (c : Call R) : 1 ≤ (m.call c).speed := by
  cases c with
  | start => exact (speed_transition m _ _).symm ▸ h
  | pause => exact (speed_transition m _ _).symm ▸ h
  | resume => exact (speed_transition m _ _).symm ▸ h
  | stop => exact h
  | tick => exact (speed_tick m).symm ▸ h
  | setSpeed ms => exact Nat.le_max_right ms 1
  | setConfig key v =>
    show 1 ≤ (m.setConfig key v).2.speed
    rcases setConfig_cases m key v with ⟨_, hs⟩ | ⟨ms, hs⟩
    · rw [hs]; exact h
    · rw [hs]; exact Nat.le_max_right ms 1

theorem speed_pos_calls {m : Machine R σ} (h : 1 ≤ m.speed) (cs : List (Call R)) :
    1 ≤ (m.calls cs).speed := by
  induction cs generalizing m with
  | nil => exact h
  | cons c cs ih => exact ih (speed_pos_call h c)

/-- The interval of a machine is at least one millisecond. -/
theorem Used.speed_pos {m : Machine R σ} (h : m.Used) : 1 ≤ m.speed := by
  obtain ⟨id, n, speed, effect, cs, rfl⟩ := h
  exact speed_pos_calls (Nat.le_max_right speed 1) cs

/-- Every frame that calls put on the strip has the size of the strip. -/
theorem size_of_mem_frames {m : Machine R σ} {cs : List (Call R)} {f : Frame}
    (h : f ∈ m.frames cs) : f.size = Frame.byteCount m.ledCount := by
  induction cs generalizing m with
  | nil => simp [frames] at h
  | cons c cs ih =>
    rw [frames, List.mem_append] at h
    rcases h with h | h
    · cases c with
      | tick =>
        rw [frame?] at h
        by_cases hr : m.status = .running
        · rcases tick_of_running hr with ⟨g, hg, ht⟩ | ⟨e, he⟩
          · rw [ht] at h
            simp only [Option.toList_some, List.mem_singleton] at h
            rw [h, hg]
          · rw [he] at h; simp at h
        · rw [tick_of_not_running hr] at h; simp at h
      | _ => simp [frame?] at h
    · rw [ih h, ledCount_call]

/-- A blinking strip of two LEDs, ten times a second. -/
def blinking : Machine Rat Blink := create "blink" 2 100 { color := Blink.defaultColor }

end LedStrip.Machine
