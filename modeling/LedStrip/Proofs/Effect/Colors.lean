import LedStrip.Proofs.Effect.Parameters
import LedStrip.Proofs.Frame.Pixels
import LedStrip.Proofs.Scheduler.Control

/-!
# Effects with one color

Blink, chase and wave paint with one color (`Builtin.color?`): their frames show it and darkness,
and nothing else (`mem_pixels_onTick`).  The parameter `color` sets it, and it is the only thing
that does.
-/

namespace LedStrip

/-! ### Pixels of painted strips -/

namespace Frame

variable {n i : Nat} {leds : List Nat} {c p : Rgb}

theorem eq_of_get?_paint (hn : 3 * n < 2 ^ 63) (h : ∀ i ∈ leds, i < n)
    (hp : ((blank n).paint c leds).get? i = some p) : p = c ∨ p = Rgb.black := by
  rw [get?_paint_blank (Nat.lt_trans hn (by decide)) h] at hp
  split at hp
  · exact .inl (Option.some.inj hp).symm
  · exact .inr (Option.some.inj (Option.ite_none_right_eq_some.mp hp).2).symm

theorem mem_pixels_paint (hn : 3 * n < 2 ^ 63) (h : ∀ i ∈ leds, i < n)
    (hp : p ∈ ((blank n).paint c leds).pixels) : p = c ∨ p = Rgb.black := by
  obtain ⟨i, hi⟩ := mem_pixels.mp hp
  exact eq_of_get?_paint hn h hi

end Frame

/-! ### The color of an effect -/

namespace Builtin

variable {R : Type}

/-- The color that an effect paints with, if there is just one. -/
def color? : Builtin R → Option Rgb
  | blink s => some s.color
  | chase s => some s.color
  | wave s => some s.color
  | rainbow _ => none

variable [Scalar R]

/-- **Frames show the color or darkness.** -/
theorem mem_pixels_onTick {e : Builtin R} {c p : Rgb} (hc : e.color? = some c) {n : Nat}
    (hn : 3 * n < 2 ^ 63) {frame : Frame} (hframe : (Effect.onTick R e n).1 = .ok frame)
    (hp : p ∈ frame.pixels) : p = c ∨ p = Rgb.black := by
  have hdark : ∀ m, 3 * m < 2 ^ 63 → p ∈ (Frame.blank m).pixels → p = c ∨ p = Rgb.black := by
    intro m hm hp
    rw [← Frame.paint_nil (Frame.blank m) c] at hp
    exact Frame.mem_pixels_paint hm (by simp) hp
  cases e with
  | blink s =>
    obtain rfl : s.color = c := Option.some.inj hc
    obtain rfl : Blink.frame { s with on := !s.on } n = frame := Except.ok.inj hframe
    unfold Blink.frame at hp
    split at hp
    · rw [Frame.fill_blank hn] at hp
      exact Frame.mem_pixels_paint hn (fun i hi => List.mem_range.mp hi) hp
    · exact hdark n hn hp
  | chase s =>
    obtain rfl : s.color = c := Option.some.inj hc
    obtain rfl : (s.tick n).1 = frame := Except.ok.inj hframe
    unfold Chase.tick at hp
    split at hp
    · exact hdark 0 (by decide) hp
    · next hpos =>
      rw [Chase.frame_eq] at hp
      exact Frame.mem_pixels_paint hn
        (fun i hi => Chase.spots_lt (Nat.pos_of_ne_zero hpos) hi) hp
  | wave s =>
    obtain rfl : s.color = c := Option.some.inj hc
    obtain rfl : (s.tick n).1 = frame := Except.ok.inj hframe
    unfold Wave.tick at hp
    split at hp
    · exact hdark 0 (by decide) hp
    · next hpos =>
      have hframe : s.frame n =
          (Frame.blank n).paint s.color ((List.range s.width).map (s.ahead n)) := by
        simp [Wave.frame, Frame.paint, List.foldl_map]
      rw [hframe] at hp
      refine Frame.mem_pixels_paint hn (fun i hi => ?_) hp
      obtain ⟨t, -, rfl⟩ := List.mem_map.mp hi
      exact Nat.mod_lt _ (Nat.pos_of_ne_zero hpos)
  | rainbow s => cases hc

omit [Scalar R] in
/-- The color is among the parameters. -/
theorem color?_of_parameters {e e' : Builtin R} (h : e.parameters = e'.parameters) :
    e.color? = e'.color? := by
  cases e <;> cases e' <;> simp_all [parameters, color?]

theorem color?_onTick (e : Builtin R) (n : Nat) : (Effect.onTick R e n).2.color? = e.color? :=
  color?_of_parameters (e.parameters_onTick n)

theorem color?_onReset (e : Builtin R) : (Effect.onReset R e).2.color? = e.color? := by
  rw [onReset_eq]
  exact color?_of_parameters (parameters_effect e.parameters)

/-- Other parameters leave the color alone. -/
theorem color?_onSetConfig_of_ne (e : Builtin R) {key : String} (h : key ≠ "color")
    (v : Json R) : (Effect.onSetConfig e key v).2.color? = e.color? := by
  cases e with
  | blink s =>
    show some (s.setConfig key v).2.color = some s.color
    unfold Blink.setConfig
    rw [if_neg h]
  | chase s =>
    show some (s.setConfig key v).2.color = some s.color
    unfold Chase.setConfig
    rw [if_neg h]
    split
    · split <;> rfl
    · rfl
  | wave s =>
    show some (s.setConfig key v).2.color = some s.color
    unfold Wave.setConfig
    rw [if_neg h]
    split
    · split <;> rfl
    · rfl
  | rainbow s => rfl

/-- An effect does not lose its color. -/
theorem isSome_color?_onSetConfig (e : Builtin R) (key : String) (v : Json R) :
    (Effect.onSetConfig e key v).2.color?.isSome = e.color?.isSome := by
  cases e <;> rfl

/-- An effect with one color takes another. -/
theorem onSetConfig_color {e : Builtin R} (he : e.color?.isSome) {v : Json R} {c : Rgb}
    (hv : colorValue v = .ok c) :
    ∃ e', Effect.onSetConfig e "color" v = (.ok (), e') ∧ e'.color? = some c := by
  cases e with
  | blink s =>
    have hset : s.setConfig "color" v = (.ok (), { s with color := c }) := by
      simp [Blink.setConfig, hv]
    exact ⟨.blink { s with color := c }, congrArg (Prod.map id blink) hset, rfl⟩
  | chase s =>
    have hset : s.setConfig "color" v = (.ok (), { s with color := c }) := by
      simp [Chase.setConfig, hv]
    exact ⟨.chase { s with color := c }, congrArg (Prod.map id chase) hset, rfl⟩
  | wave s =>
    have hset : s.setConfig "color" v = (.ok (), { s with color := c }) := by
      simp [Wave.setConfig, hv]
    exact ⟨.wave { s with color := c }, congrArg (Prod.map id wave) hset, rfl⟩
  | rainbow s => cases he

end Builtin

/-! ### The color of a machine -/

section Machines

variable {R : Type} [Scalar R]

/-- Calls that set nothing leave the color alone. -/
theorem Machine.Controlled.color? {m m' : Machine R (Builtin R)} (h : m.Controlled m') :
    m'.effect.color? = m.effect.color? := by
  refine h.induction (P := fun m' => m'.effect.color? = m.effect.color?) (fun m' c hc hm => ?_) rfl
  refine Eq.trans ?_ hm
  cases c with
  | start => exact congrArg Builtin.color? (effect_transition m' _ _)
  | pause => exact congrArg Builtin.color? (effect_transition m' _ _)
  | resume => exact congrArg Builtin.color? (effect_transition m' _ _)
  | stop => exact Builtin.color?_onReset m'.effect
  | tick =>
    show m'.tick.2.effect.color? = m'.effect.color?
    by_cases hr : m'.status = .running
    · rcases tick_of_running hr with ⟨f, -, ht⟩ | ⟨e, ht⟩
      · rw [ht]
        exact Builtin.color?_onTick m'.effect m'.ledCount
      · rw [ht]
        exact Builtin.color?_onTick m'.effect m'.ledCount
    · rw [tick_of_not_running hr]
  | setSpeed ms => exact hc.elim
  | setConfig key v => exact hc.elim

/-- A scheduler hands the color on. -/
theorem Scheduler.setConfig_color {s : Scheduler R (Builtin R)}
    (hs : s.machine.effect.color?.isSome) {v : Json R} {c : Rgb} (hv : colorValue v = .ok c) :
    (s.setConfig "color" v).1 = .ok () ∧
      (s.setConfig "color" v).2.machine.effect.color? = some c := by
  obtain ⟨e, he, hc⟩ := Builtin.onSetConfig_color hs hv
  rw [answer_setConfig, machine_setConfig, Machine.setConfig_of_ne _ (by decide), he]
  exact ⟨rfl, hc⟩

/-- Under any other key it does not touch the color. -/
theorem Scheduler.color?_setConfig_of_ne (s : Scheduler R (Builtin R)) {key : String}
    (hspeed : key ≠ "speed") (h : key ≠ "color") (v : Json R) :
    (s.setConfig key v).2.machine.effect.color? = s.machine.effect.color? := by
  rw [machine_setConfig, Machine.setConfig_of_ne _ hspeed]
  exact Builtin.color?_onSetConfig_of_ne s.machine.effect h v

theorem Scheduler.isSome_color?_setConfig (s : Scheduler R (Builtin R)) {key : String}
    (hspeed : key ≠ "speed") (v : Json R) :
    (s.setConfig key v).2.machine.effect.color?.isSome = s.machine.effect.color?.isSome := by
  rw [machine_setConfig, Machine.setConfig_of_ne _ hspeed]
  exact Builtin.isSome_color?_onSetConfig s.machine.effect key v

/-- A machine that paints with one color: its effect has the color, and the next frame shows nothing
but that and darkness. -/
def Machine.PaintsWith (m : Machine R (Builtin R)) (c : Rgb) : Prop :=
  m.effect.color? = some c ∧
    (3 * m.ledCount < 2 ^ 63 → ∀ frame, (Effect.onTick R m.effect m.ledCount).1 = .ok frame →
      ∀ p ∈ frame.pixels, p = c ∨ p = Rgb.black)

theorem Machine.paintsWith_of_color? {m : Machine R (Builtin R)} {c : Rgb}
    (h : m.effect.color? = some c) : m.PaintsWith c :=
  ⟨h, fun hn _ hframe _ hp => Builtin.mem_pixels_onTick h hn hframe hp⟩

/-- A machine for one of the three effects has a color. -/
theorem Builtin.color?_of_create {f : Factory R (Builtin R)}
    (hf : f ∈ [blinkFactory, chaseFactory, waveFactory]) {o : EffectOptions R}
    {m : Machine R (Builtin R)} (h : f.create o = .ok m) : m.effect.color?.isSome := by
  simp only [List.mem_cons, List.not_mem_nil, or_false] at hf
  rcases hf with rfl | rfl | rfl
  all_goals
    obtain ⟨e, he, rfl⟩ := eq_create_of_factory h
    obtain ⟨s, -, rfl⟩ := Except.map_eq_ok he
    rfl

end Machines

end LedStrip
