import LedStrip.Loader.ScriptEffect
import LedStrip.Proofs.Effect.Hooks
import LedStrip.Proofs.Effect.Options

/-!
# The life of a machine

What holds of a machine after any calls, however its effect misbehaves: the size of its strip, the
moves of its status, and what a call that fails leaves alone (`lifecycle`).  Every factory makes
machines that begin such a life (`Fresh`).
-/

namespace LedStrip.Machine

variable {R σ : Type}

/-- The status after a call. -/
def Call.next : Call R → Status → Status
  | .start, .idle => .running
  | .pause, .running => .paused
  | .resume, .paused => .running
  | .stop, _ => .idle
  | _, s => s

/-- A machine that was just created: idle, at least one LED, all dark, and an interval of at least a
millisecond. -/
structure Fresh (id : String) (m : Machine R σ) : Prop where
  created : m = create id m.ledCount m.speed m.effect
  ledCount_pos : 1 ≤ m.ledCount
  speed_pos : 1 ≤ m.speed

theorem fresh_create (id : String) {ledCount speed : Nat} (hn : 1 ≤ ledCount) (hs : 1 ≤ speed)
    (effect : σ) : (create id ledCount speed effect : Machine R σ).Fresh id := by
  have hmax : max speed 1 = speed := Nat.max_eq_left hs
  refine ⟨?_, hn, by show 1 ≤ max speed 1; omega⟩
  simp only [create, hmax]

/-! ### Status -/

section Status

theorem transition_answer (m : Machine R σ) {source target : Status} (h : target ≠ source) :
    (m.transition source target).1 = true ↔ (m.transition source target).2.status ≠ m.status := by
  by_cases hs : m.status = source
  · rw [transition_of_eq target hs]
    exact ⟨fun _ => hs ▸ h, fun _ => rfl⟩
  · rw [transition_of_ne target hs]
    simp

theorem status_transition (m : Machine R σ) (source target : Status) :
    (m.transition source target).2.status = if m.status = source then target else m.status := by
  by_cases hs : m.status = source
  · rw [transition_of_eq target hs, if_pos hs]
  · rw [transition_of_ne target hs, if_neg hs]

variable [Scalar R] [Effect R σ]

/-- The status moves as the calls say, and never otherwise. -/
theorem status_call (m : Machine R σ) (c : Call R) : (m.call c).status = c.next m.status := by
  cases c with
  | start =>
    refine (status_transition m _ _).trans ?_
    cases m.status <;> rfl
  | pause =>
    refine (status_transition m _ _).trans ?_
    cases m.status <;> rfl
  | resume =>
    refine (status_transition m _ _).trans ?_
    cases m.status <;> rfl
  | stop => rfl
  | tick => exact status_tick m
  | setSpeed ms => rfl
  | setConfig key v => exact status_setConfig m key v

end Status

/-! ### The strip -/

section Strip

variable [Effect R σ]

theorem size_tick {m : Machine R σ} (h : m.leds.size = Frame.byteCount m.ledCount) :
    m.tick.2.leds.size = Frame.byteCount m.ledCount := by
  by_cases hr : m.status = .running
  · rcases tick_of_running hr with ⟨f, hf, ht⟩ | ⟨e, ht⟩
    · rw [ht]; exact hf
    · rw [ht]; exact h
  · rw [tick_of_not_running hr]; exact h

/-- A call keeps the frame at the size of the strip. -/
theorem size_call [Scalar R] {m : Machine R σ} (h : m.leds.size = Frame.byteCount m.ledCount)
    (c : Call R) : (m.call c).leds.size = Frame.byteCount (m.call c).ledCount := by
  rw [ledCount_call]
  have moved (source target : Status) :
      (m.transition source target).2.leds.size = Frame.byteCount m.ledCount := by
    unfold transition; split <;> exact h
  cases c with
  | start => exact moved _ _
  | pause => exact moved _ _
  | resume => exact moved _ _
  | stop => exact Frame.size_blank m.ledCount
  | tick => exact size_tick h
  | setSpeed ms => exact h
  | setConfig key v =>
    show (m.setConfig key v).2.leds.size = _
    rcases setConfig_cases m key v with ⟨_, hs⟩ | ⟨_, hs⟩
    · rw [hs]; exact h
    · rw [hs]; exact h

theorem size_calls [Scalar R] {m : Machine R σ} (h : m.leds.size = Frame.byteCount m.ledCount)
    (cs : List (Call R)) : (m.calls cs).leds.size = Frame.byteCount m.ledCount := by
  induction cs generalizing m with
  | nil => exact h
  | cons c cs ih =>
    have hcall := ih (size_call h c)
    rwa [ledCount_call] at hcall

/-- A tick puts a frame on the strip exactly when the machine runs and the effect has a frame of the
right size. -/
theorem tick_eq_ok_true_iff (m : Machine R σ) : m.tick.1 = .ok true ↔ m.status = .running ∧
    ∃ f, (Effect.onTick R m.effect m.ledCount).1 = .ok f ∧
      f.size = Frame.byteCount m.ledCount := by
  by_cases hr : m.status = .running
  · cases ha : (Effect.onTick R m.effect m.ledCount).1 with
    | error e =>
      rw [tick_of_hook_error hr ha]
      simp
    | ok f =>
      by_cases hf : f.size = Frame.byteCount m.ledCount
      · rw [tick_of_size_eq hr ha hf]
        exact ⟨fun _ => ⟨hr, f, rfl, hf⟩, fun _ => rfl⟩
      · rw [tick_of_size_ne hr ha hf]
        simp [hf]
  · rw [tick_of_not_running hr]
    simp [hr]

/-- A tick without a frame changes the effect at most. -/
theorem snapshot_tick_of_ne {m : Machine R σ} (h : m.tick.1 ≠ .ok true) :
    m.tick.2.snapshot = m.snapshot := by
  by_cases hr : m.status = .running
  · rcases tick_of_running hr with ⟨f, -, ht⟩ | ⟨e, ht⟩
    · exact absurd (congrArg Prod.fst ht) h
    · rw [ht]; rfl
  · rw [tick_of_not_running hr]

end Strip

end LedStrip.Machine

/-! ### Factories -/

namespace LedStrip

variable {R : Type}

/-- A factory for a built-in effect makes a new machine around what it builds. -/
theorem Builtin.eq_create_of_factory {id name description : String} {defaultSpeed : Nat}
    {build : EffectOptions R → Except EffectError (Builtin R)} {o : EffectOptions R}
    {m : Machine R (Builtin R)}
    (h : (Builtin.factory id name description defaultSpeed build).create o = .ok m) :
    ∃ effect, build o = .ok effect ∧
      m = Machine.create id o.ledCount (o.speedOr defaultSpeed) effect := by
  unfold Builtin.factory at h
  dsimp only at h
  cases hb : build o with
  | error e =>
    rw [hb] at h
    cases h
  | ok effect =>
    rw [hb] at h
    cases h
    exact ⟨effect, rfl, rfl⟩

variable [Scalar R]

theorem Builtin.eq_create_of_create {f : Factory R (Builtin R)} (hf : f ∈ Builtin.factories)
    {o : EffectOptions R} {m : Machine R (Builtin R)} (h : f.create o = .ok m) :
    ∃ defaultSpeed effect, (1 ≤ defaultSpeed ∧ defaultSpeed ≤ 1000) ∧
      m = Machine.create f.id o.ledCount (o.speedOr defaultSpeed) effect := by
  simp only [Builtin.factories, List.mem_cons, List.not_mem_nil, or_false] at hf
  rcases hf with rfl | rfl | rfl | rfl
  all_goals
    obtain ⟨effect, -, hm⟩ := Builtin.eq_create_of_factory h
    exact ⟨_, effect, by decide, hm⟩

/-- Factories for built-in effects make fresh machines. -/
theorem Builtin.fresh_of_create {f : Factory R (Builtin R)} (hf : f ∈ Builtin.factories)
    {o : EffectOptions R} {m : Machine R (Builtin R)} (h : f.create o = .ok m) : m.Fresh f.id := by
  obtain ⟨defaultSpeed, effect, ⟨hd, -⟩, rfl⟩ := Builtin.eq_create_of_create hf h
  exact Machine.fresh_create f.id o.ledCount_pos (o.speedOr_pos hd) effect

theorem machineCount_pos {members : Entries (Script.Value R)} {key : String} {n : Nat}
    (h : machineCount members key = .ok n) : 1 ≤ n := by
  have positive {i : Int} {e : EffectError}
      (hi : (if i < 1 then .error e else .ok i.toNat) = (.ok n : Except EffectError Nat)) :
      1 ≤ n := by
    split at hi
    · cases hi
    · cases hi
      omega
  unfold machineCount at h
  simp only [bind, Except.bind, pure, Except.pure, throw, throwThe, MonadExceptOf.throw] at h
  split at h
  · cases h
  · exact positive h
  · exact positive h
  · cases h

theorem ScriptFactory.fresh_machineOf (f : ScriptFactory) {v : Script.Value R}
    {m : Machine R (ScriptEffect R)} (h : f.machineOf v = .ok m) : m.Fresh f.id := by
  unfold ScriptFactory.machineOf at h
  cases v with
  | map members =>
    dsimp only at h
    cases hn : machineCount members "led_count" with
    | error e =>
      rw [hn] at h
      cases h
    | ok ledCount =>
      cases hs : machineCount members "speed" with
      | error e =>
        rw [hn, hs] at h
        cases h
      | ok speed =>
        rw [hn, hs] at h
        cases h
        exact Machine.fresh_create f.id (machineCount_pos hn) (machineCount_pos hs) _
  | _ => cases h

/-- A factory for a script effect makes fresh machines, whatever its entry function returns. -/
theorem ScriptFactory.fresh_of_create (f : ScriptFactory) {o : EffectOptions R}
    {m : Machine R (ScriptEffect R)} (h : f.create o = .ok m) : m.Fresh f.id := by
  unfold ScriptFactory.create at h
  split at h
  · cases h
  · exact f.fresh_machineOf h

/-! ### All of it -/

namespace Machine

variable {σ : Type} [Effect R σ]

/-- **The life of a machine**, whatever its effect does.  After any calls of a machine that was
created with room for its strip:

* the frame has three bytes for every LED, the length is the one of its creation, and the interval
  is at least a millisecond;
* the status moves as `Call.next` says, and a transition succeeds exactly when it moves it;
* a call runs the hooks of `Machine.hooks` and no others: a tick one while the machine runs, `stop`
  the reset once, `setConfig` its own unless the key is `speed`;
* a tick has a frame exactly when the machine runs and the effect has one of the right size;
  otherwise status, interval and frame stay, and the error of the hook is the error of the tick;
* an interval that is refused changes nothing;
* `stop` gives the answer of the reset hook and ends idle and dark in any case.

And every machine that a factory makes begins such a life. -/
theorem lifecycle (id : String) (ledCount speed : Nat) (effect : σ)
    (hsize : 3 * ledCount < 2 ^ 64) (cs : List (Call R)) :
    let start : Machine R σ := create id ledCount speed effect
    let m := start.calls cs
    let w := start.watched.calls cs
    let answer := (Effect.onTick R m.effect m.ledCount).1
    (m.leds.size = 3 * ledCount ∧ m.ledCount = ledCount ∧ 1 ≤ m.speed) ∧
      ((∀ c, (m.call c).status = c.next m.status) ∧
        (m.start.1 = true ↔ m.start.2.status ≠ m.status) ∧
        (m.pause.1 = true ↔ m.pause.2.status ≠ m.status) ∧
        (m.resume.1 = true ↔ m.resume.2.status ≠ m.status)) ∧
      (w.mapEffect Watched.effect = m ∧
        ∀ c, (w.call c).effect.seen = w.effect.seen ++ m.hooks c) ∧
      ((m.tick.1 = .ok true ↔
          m.status = .running ∧ ∃ f, answer = .ok f ∧ f.size = 3 * ledCount) ∧
        (m.tick.1 ≠ .ok true → m.tick.2.snapshot = m.snapshot) ∧
        (m.status ≠ .running → m.tick = (.ok false, m)) ∧
        (∀ e, m.status = .running → answer = .error e → m.tick.1 = .error e) ∧
        (∀ f, m.status = .running → answer = .ok f → f.size ≠ 3 * ledCount →
          m.tick.1 = .error (.frameSize (3 * ledCount) f.size))) ∧
      (∀ v e, (m.setConfig "speed" v).1 = .error e → (m.setConfig "speed" v).2 = m) ∧
      (m.stop.1 = (Effect.onReset R m.effect).1 ∧ m.stop.2.status = .idle ∧
        m.stop.2.leds = ⟨Array.replicate (3 * ledCount) 0⟩) ∧
      (∀ f ∈ (Builtin.factories : List (Factory R (Builtin R))), ∀ o m,
        f.create o = .ok m → m.Fresh f.id) ∧
      ∀ (f : ScriptFactory) (o : EffectOptions R) m, f.create o = .ok m → m.Fresh f.id := by
  intro start m w answer
  have hcount : m.ledCount = ledCount := ledCount_calls start cs
  have hbytes : Frame.byteCount m.ledCount = 3 * ledCount := by
    rw [hcount, Frame.byteCount, Nat.mod_eq_of_lt hsize]
  have hleds : m.leds.size = Frame.byteCount m.ledCount := by
    rw [hcount]
    exact size_calls (Frame.size_blank ledCount) cs
  have hspeed : 1 ≤ m.speed := speed_pos_calls (Nat.le_max_right speed 1) cs
  have hwatched : w.mapEffect Watched.effect = m := mapEffect_calls_watched start cs
  refine ⟨⟨hleds.trans hbytes, hcount, hspeed⟩, ⟨status_call m, ?_, ?_, ?_⟩,
    ⟨hwatched, fun c => ?_⟩, ⟨?_, snapshot_tick_of_ne, tick_of_not_running, fun e hr he => ?_,
      fun f hr hf hne => ?_⟩, fun v e he => ?_, ⟨rfl, rfl, ?_⟩,
    fun f hf o m h => Builtin.fresh_of_create hf h, fun f o m h => f.fresh_of_create h⟩
  · exact transition_answer m (by decide)
  · exact transition_answer m (by decide)
  · exact transition_answer m (by decide)
  · have hhooks : w.hooks c = m.hooks c := by
      rw [← hwatched]
      rfl
    rw [seen_call w c, hhooks]
  · rw [← hbytes]
    exact tick_eq_ok_true_iff m
  · rw [tick_of_hook_error hr he]
  · rw [tick_of_size_ne hr hf (hbytes ▸ hne), hbytes]
  · cases hv : speedValue v with
    | error e' => rw [setConfig_speed_error m hv]
    | ok ms =>
      rw [setConfig_speed_ok m hv] at he
      cases he
  · show Frame.blank m.ledCount = _
    rw [Frame.blank, hbytes]

/-! ### An effect that misbehaves -/

/-- An effect that answers its ticks from a list and refuses everything else. -/
structure Replay where
  answers : List (Except EffectError Frame)

/-- The error of a hook that refuses. -/
def Replay.refusal (h : Hook) : EffectError := .hook h "refused"

instance : Effect R Replay where
  onTick s _ :=
    match s.answers with
    | [] => (.error (Replay.refusal .tick), s)
    | a :: rest => (a, ⟨rest⟩)
  onReset s := (.error (Replay.refusal .reset), s)
  onSetConfig s _ _ := (.error (Replay.refusal .setConfig), s)

/-- Two LEDs that light up once; the second frame is too short and the third tick fails. -/
def faltering : Machine Rat Replay :=
  create "replay" 2 0 ⟨[.ok ⟨#[1, 2, 3, 4, 5, 6]⟩, .ok ⟨#[7]⟩]⟩

/-- The short frame of a faltering strip is refused, the old one stays until the machine stops, and
stopping it darkens the strip although the reset fails. -/
theorem faltering_keeps_its_frame :
    let m := faltering.calls [.start, .tick]
    3 * 2 < 2 ^ 64 ∧ m.tick.1 = .error (.frameSize 6 1) ∧ m.tick.2.leds = ⟨#[1, 2, 3, 4, 5, 6]⟩ ∧
      m.stop.1 = .error (Replay.refusal .reset) ∧ m.stop.2.leds = ⟨#[0, 0, 0, 0, 0, 0]⟩ := by
  intro m
  obtain ⟨-, -, -, ⟨-, hkept, -, -, hshort⟩, -, ⟨hreset, -, hdark⟩, -, -⟩ :=
    lifecycle "replay" 2 0 faltering.effect (by decide) ([.start, .tick] : List (Call Rat))
  have hr : m.status = .running := by decide
  have htick : m.tick.1 = .error (.frameSize 6 1) := hshort ⟨#[7]⟩ hr rfl (by decide)
  have hleds : m.tick.2.leds = m.leds := congrArg Snapshot.leds (hkept fun h => by
    cases htick.symm.trans h)
  exact ⟨by decide, htick, hleds, hreset, hdark⟩

end Machine
end LedStrip
