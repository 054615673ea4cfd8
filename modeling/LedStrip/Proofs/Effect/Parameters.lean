import LedStrip.Effect.Factory
import LedStrip.Proofs.Effect.Lifecycle
import LedStrip.Proofs.Effect.Painting

/-!
# Parameters of the built-in effects

A built-in effect consists of its parameters and of a counter that its ticks move.
`Builtin.parameters` leaves the counter out and `Parameters.effect` starts it again.  Each hook
keeps to one of the two: a tick moves the counter (`parameters_onTick`), a reset starts it
(`onReset_eq`), and a value sets a parameter, if the effect knows its key and takes it, and does
nothing otherwise (`onSetConfig_of_not_mem`, `onSetConfig_of_error`).
-/

namespace LedStrip

/-- What a built-in effect is told about its frames. -/
inductive Parameters (R : Type) where
  | blink (color : Rgb)
  | chase (color : Rgb) (count : Nat)
  | rainbow (hueStep hueSpread saturation brightness : R)
  | wave (color : Rgb) (width : Nat)

namespace Parameters

variable {R : Type}

/-- The keys that they are set under. -/
def keys : Parameters R → List String
  | blink _ => ["color"]
  | chase _ _ => ["color", "chaseCount"]
  | rainbow _ _ _ _ => ["hueStep", "hueSpread", "saturation", "brightness"]
  | wave _ _ => ["color", "waveWidth"]

/-- The effect with these parameters before its first frame. -/
def effect [Scalar R] : Parameters R → Builtin R
  | blink color => .blink { color }
  | chase color count => .chase { color, count }
  | rainbow hueStep hueSpread saturation brightness =>
    .rainbow ⟨hueStep, hueSpread, saturation, brightness, Scalar.ofNat 0⟩
  | wave color width => .wave { color, width }

end Parameters

namespace Builtin

variable {R : Type}

def parameters : Builtin R → Parameters R
  | blink s => .blink s.color
  | chase s => .chase s.color s.count
  | rainbow s => .rainbow s.hueStep s.hueSpread s.saturation s.brightness
  | wave s => .wave s.color s.width

/-- The keys that an effect knows. -/
def keys (e : Builtin R) : List String := e.parameters.keys

/-- The interval is the business of the machine. -/
theorem speed_not_mem_keys (e : Builtin R) : "speed" ∉ e.keys := by
  cases e <;> simp [keys, parameters, Parameters.keys]

variable [Scalar R]

@[simp] theorem parameters_effect (p : Parameters R) : p.effect.parameters = p := by
  cases p <;> rfl

/-! ### Hooks -/

/-- A tick has a frame for the strip. -/
theorem exists_frame_onTick (e : Builtin R) (n : Nat) :
    ∃ f : Frame, f.size = Frame.byteCount n ∧ (Effect.onTick R e n).1 = .ok f := by
  cases e with
  | blink s =>
    refine ⟨Blink.frame { s with on := !s.on } n, ?_, rfl⟩
    unfold Blink.frame
    split <;> simp
  | chase s =>
    refine ⟨(s.tick n).1, ?_, rfl⟩
    unfold Chase.tick
    split
    · next hn => simp [hn]
    · exact (Frame.size_foldl_set _ _ _ _).trans (Frame.size_blank n)
  | rainbow s => exact ⟨s.frame n, (Frame.size_foldl_set _ _ _ _).trans (Frame.size_blank n), rfl⟩
  | wave s =>
    refine ⟨(s.tick n).1, ?_, rfl⟩
    unfold Wave.tick
    split
    · next hn => simp [hn]
    · exact (Frame.size_foldl_set _ _ _ _).trans (Frame.size_blank n)

theorem parameters_onTick (e : Builtin R) (n : Nat) :
    (Effect.onTick R e n).2.parameters = e.parameters := by
  cases e with
  | blink s => rfl
  | chase s =>
    show parameters (.chase (s.tick n).2) = _
    unfold Chase.tick
    split <;> rfl
  | rainbow s => rfl
  | wave s =>
    show parameters (.wave (s.tick n).2) = _
    unfold Wave.tick
    split <;> rfl

/-- A reset starts the counter and leaves the parameters. -/
theorem onReset_eq (e : Builtin R) : Effect.onReset R e = (.ok (), e.parameters.effect) := by
  cases e <;> rfl

/-- A key that the effect does not know changes nothing. -/
theorem onSetConfig_of_not_mem {e : Builtin R} {key : String} (h : key ∉ e.keys) (v : Json R) :
    Effect.onSetConfig e key v = (.ok (), e) := by
  cases e with
  | blink s =>
    have hset : s.setConfig key v = (.ok (), s) := by
      simp_all [keys, parameters, Parameters.keys, Blink.setConfig]
    exact congrArg (Prod.map id blink) hset
  | chase s =>
    have hset : s.setConfig key v = (.ok (), s) := by
      simp_all [keys, parameters, Parameters.keys, Chase.setConfig]
    exact congrArg (Prod.map id chase) hset
  | rainbow s =>
    have hset : s.setConfig key v = (.ok (), s) := by
      simp_all [keys, parameters, Parameters.keys, Rainbow.setConfig]
    exact congrArg (Prod.map id rainbow) hset
  | wave s =>
    have hset : s.setConfig key v = (.ok (), s) := by
      simp_all [keys, parameters, Parameters.keys, Wave.setConfig]
    exact congrArg (Prod.map id wave) hset

/-- A value that is refused changes nothing. -/
theorem onSetConfig_of_error {e : Builtin R} {key : String} {v : Json R} {err : EffectError}
    (h : (Effect.onSetConfig e key v).1 = .error err) : (Effect.onSetConfig e key v).2 = e := by
  cases e with
  | blink s =>
    have hset : (s.setConfig key v).1 = .error err → (s.setConfig key v).2 = s := by
      unfold Blink.setConfig
      grind
    exact congrArg blink (hset h)
  | chase s =>
    have hset : (s.setConfig key v).1 = .error err → (s.setConfig key v).2 = s := by
      unfold Chase.setConfig
      grind
    exact congrArg chase (hset h)
  | rainbow s =>
    have hset : (s.setConfig key v).1 = .error err → (s.setConfig key v).2 = s := by
      unfold Rainbow.setConfig
      grind
    exact congrArg rainbow (hset h)
  | wave s =>
    have hset : (s.setConfig key v).1 = .error err → (s.setConfig key v).2 = s := by
      unfold Wave.setConfig
      grind
    exact congrArg wave (hset h)

end Builtin
end LedStrip
