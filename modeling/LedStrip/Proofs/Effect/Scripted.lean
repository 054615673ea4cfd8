import LedStrip.Proofs.Effect.Options
import LedStrip.Proofs.Script.Runtime

/-!
# Parameters, read by scripts and by built-in effects
-/

namespace LedStrip

open Script Script.Program Scalar

/-- A color tagged as RGB, with integers from 0 to 255 as its channels. -/
def IsRgb {R : Type} (v : Json R) (c : Rgb) : Prop :=
  ∃ members, v = .obj members ∧ IsTaggedRgb members c

/-- A count `a` in a script that a built-in effect keeps as `b`, on a strip of `n` LEDs. -/
structure KeptAs (n a b : Nat) : Prop where
  one_le : 1 ≤ a
  le : a ≤ 2 ^ 62
  one_le' : 1 ≤ b
  le' : b ≤ 2 ^ 62
  same : SameUpTo n a b

section Colors

variable {R : Type} [Scalar R] [LawfulScalar R]

/-- The color that it stands for. -/
theorem colorValue_rgb {v : Json R} {c : Rgb} (h : IsRgb v c) : colorValue v = .ok c := by
  obtain ⟨members, rfl, hc⟩ := h
  have hread : TaggedColor.ofJson (.obj members) = .ok (.rgb c.r c.g c.b) :=
    TaggedColor.ofJson_rgb hc.tag hc.r hc.g hc.b
  rw [colorValue, rgbOfJson, hread]
  rfl

end Colors

namespace EffectOptions

variable {R : Type}

/-- The members of the map that a script is given. -/
def told (o : EffectOptions R) : Entries (Value R) :=
  match Value.ofJson o.toJson with
  | .map members => members
  | _ => []

theorem ofJson_toJson (o : EffectOptions R) : Value.ofJson o.toJson = .map o.told := rfl

theorem get?_told {o : EffectOptions R} (h : o.WellFormed) (key : String) :
    Entries.get? key o.told =
      ((if key = "ledCount" then o.ledCount?.map Json.ofNat
        else if key = "speed" then o.speed?.map Json.ofNat
        else Entries.get? key o.params) : Option (Json R)).map Value.ofJson := by
  rw [← get?_toJson h]
  exact get?_ofJsonMembers key _

theorem ofJson_ofNat {n : Nat} (hn : n < 2 ^ 63) : Value.ofJson (.ofNat n : Json R) = .int n := by
  have hfit : (n : Int) ≤ maxInt := by unfold maxInt; omega
  simp [Json.ofNat, Value.ofJson, hfit]

theorem told_ledCount {o : EffectOptions R} (h : o.WellFormed)
    (hn : ∀ n, o.ledCount? = some n → n < 2 ^ 63) :
    Entries.get? "ledCount" o.told = o.ledCount?.map fun n => .int n := by
  rw [get?_told h, if_pos rfl, Option.map_map]
  exact Option.map_congr fun n hmem => ofJson_ofNat (hn n hmem)

theorem told_speed {o : EffectOptions R} (h : o.WellFormed)
    (hn : ∀ n, o.speed? = some n → n < 2 ^ 63) :
    Entries.get? "speed" o.told = o.speed?.map fun n => .int n := by
  rw [get?_told h, if_neg (by decide), if_pos rfl, Option.map_map]
  exact Option.map_congr fun n hmem => ofJson_ofNat (hn n hmem)

/-- A parameter is told as it is, and as `()` where it is absent or `null`. -/
theorem told_param {o : EffectOptions R} (h : o.WellFormed) {key : String}
    (hledCount : key ≠ "ledCount") (hspeed : key ≠ "speed") :
    (Entries.get? key o.told).getD .unit = ((o.param? key).map Value.ofJson).getD .unit := by
  rw [get?_told h, if_neg hledCount, if_neg hspeed, param?]
  cases Entries.get? key o.params with
  | none => rfl
  | some v => cases v <;> rfl

variable [Scalar R] [LawfulScalar R] {p : Program}

/-- The script reads the length of the strip as it is. -/
theorem config_ledCount (hp : HasRuntime p) {o : EffectOptions R} (h : o.WellFormed)
    (hn : o.ledCount < 2 ^ 63) (depth : Nat) :
    caller p (depth + 1) "config_or" [.map o.told, .str "ledCount", .int 20] none =
      some (.ok (.int o.ledCount), none) := by
  have hlt : ∀ n, o.ledCount? = some n → n < 2 ^ 63 := fun n hmem => by
    rcases Nat.eq_zero_or_pos n with rfl | hpos
    · norm_num
    · simpa [ledCount, hmem, Option.filter, hpos] using hn
  refine hp.config_or_nat depth none ?_ (fun n hmem => ?_) defaultLedCount
  · rw [told_ledCount h hlt]
  · have := hlt n hmem; omega

/-- The script reads the interval as it is. -/
theorem config_speed (hp : HasRuntime p) {o : EffectOptions R} (h : o.WellFormed)
    (hn : ∀ n, o.speed? = some n → n < 2 ^ 63) (default depth : Nat) :
    caller p (depth + 1) "config_or" [.map o.told, .str "speed", .int default] none =
      some (.ok (.int (o.speedOr default)), none) := by
  refine hp.config_or_nat depth none ?_ (fun n hmem => ?_) default
  · rw [told_speed h hn]
  · have := hn n hmem; omega

/-- Both read the same color. -/
theorem config_color (hp : HasRuntime p) {o : EffectOptions R} (h : o.WellFormed)
    (hcolor : ∀ v, o.param? "color" = some v → ∃ c, IsRgb v c) (default : Rgb) (depth : Nat) :
    ∃ c, o.colorOr "color" default = .ok c ∧
      caller p (depth + 5) "config_color_or" [.map o.told, rgbValue default] none =
        some (.ok (rgbValue c), none) := by
  have htold : (Entries.get? "color" o.told).getD .unit =
      ((o.param? "color").map Value.ofJson).getD .unit := told_param h (by decide) (by decide)
  cases hv : o.param? "color" with
  | none =>
    rw [hv] at htold
    exact ⟨default, by rw [colorOr, hv], hp.config_color_or_unit depth none htold _⟩
  | some v =>
    obtain ⟨c, hc⟩ := hcolor v hv
    obtain ⟨members, rfl, hmembers⟩ := hc
    rw [hv] at htold
    refine ⟨c, by rw [colorOr, hv]; exact colorValue_rgb ⟨members, rfl, hmembers⟩,
      hp.config_color_or_rgb depth none hmembers ?_ _⟩
    cases ht : Entries.get? "color" o.told with
    | none => rw [ht] at htold; cases htold
    | some w => rw [ht] at htold; exact congrArg some htold

/-- Both read counts that make no difference to the strip. -/
theorem config_count (hp : HasRuntime p) {o : EffectOptions R} (h : o.WellFormed) {key : String}
    (hledCount : key ≠ "ledCount") (hspeed : key ≠ "speed")
    (hcount : ∀ v, o.param? key = some v → ∃ k : Nat, k < 2 ^ 62 ∧ v = .int k) {n : Nat}
    (hn : CountsTo R (n + 1)) (hn62 : n < 2 ^ 62) {default : Nat} (hd1 : 1 ≤ default)
    (hd62 : default ≤ 2 ^ 62) (depth : Nat) :
    ∃ a b, KeptAs n a b ∧ o.countOr key default = .ok b ∧
      caller p (depth + 1) "config_or" [.map o.told, .str key, .int default] none =
        some (.ok (.int a), none) := by
  have htold := told_param h hledCount hspeed
  cases hv : o.param? key with
  | none =>
    rw [hv] at htold
    exact ⟨default, default, ⟨hd1, hd62, hd1, hd62, .inl rfl⟩, by rw [countOr, hv],
      hp.config_or_unit depth none htold _⟩
  | some v =>
    obtain ⟨k, hk, rfl⟩ := hcount v hv
    have hfit : (k : Int) ≤ maxInt := by unfold maxInt; omega
    rw [hv] at htold
    have hread := hp.config_or_int depth none (n := k) (by simpa [Value.ofJson, hfit] using htold)
      (by omega) (.int default)
    rcases Nat.eq_zero_or_pos k with rfl | hpos
    · refine ⟨default, default, ⟨hd1, hd62, hd1, hd62, .inl rfl⟩, ?_, hread⟩
      simp [countOr, hv, Json.asNumber?, ofInt_zero_beq_zero]
    · obtain ⟨b, hb, hb1, hb62, hsame⟩ := positiveCount_int (R := R) key hn hpos (by omega) hn62
      have hne : (ofInt (k : Int) == (ofInt 0 : R)) = false :=
        ofInt_beq_zero (by omega) (by omega)
      refine ⟨k, b, ⟨hpos, by omega, hb1, hb62, hsame⟩, ?_, by rwa [if_neg hpos.ne'] at hread⟩
      simp [countOr, hv, Json.asNumber?, hne, hb]

end EffectOptions

/-! ### Hooks -/

section Hooks

variable {R : Type} [Scalar R] {p : Program} {depth : Nat} (hdepth : depth = maxCalls)

namespace ScriptEffect

variable {before after : Value R}

include hdepth

theorem runHook_of_caller {hook : Hook} {args : List (Value R)} {v : Value R}
    (h : caller p depth hook.name args (some before) = some (.ok v, some after)) :
    runHook ⟨p, before⟩ hook args = (.ok v, ⟨p, after⟩) := by
  subst hdepth
  rw [runHook, Program.call, h]
  rfl

theorem runHook_of_fault {hook : Hook} {args : List (Value R)} {f : Fault R}
    (h : caller p depth hook.name args (some before) = some (.fault f, some after)) :
    runHook ⟨p, before⟩ hook args = (.error (.hook hook f.message), ⟨p, after⟩) := by
  subst hdepth
  rw [runHook, Program.call, h]
  rfl

theorem onTick_of_caller {n : Nat} {f : Frame}
    (h : caller p depth "on_tick" [.int n] (some before) =
      some (.ok (.blob f.bytes), some after)) :
    Effect.onTick R (⟨p, before⟩ : ScriptEffect R) n = (.ok f, ⟨p, after⟩) := by
  show (Except.bind (runHook ⟨p, before⟩ .tick [.int n]).1 frameOf,
    (runHook ⟨p, before⟩ .tick [.int n]).2) = _
  rw [runHook_of_caller hdepth h]
  rfl

theorem onReset_of_caller {v : Value R}
    (h : caller p depth "on_reset" [] (some before) = some (.ok v, some after)) :
    Effect.onReset R (⟨p, before⟩ : ScriptEffect R) = (.ok (), ⟨p, after⟩) := by
  have hdefines : p.defines Hook.reset.name 0 = true := defines_of_caller h
  simp only [Effect.onReset, hdefines, if_true]
  rw [runHook_of_caller hdepth h]
  rfl

theorem onSetConfig_of_caller {key : String} {v : Json R} {x w : Value R} (hv : Value.ofJson v = x)
    (h : caller p depth "on_set_config" [.str key, x] (some before) = some (.ok w, some after)) :
    Effect.onSetConfig (⟨p, before⟩ : ScriptEffect R) key v = (.ok (), ⟨p, after⟩) := by
  subst hv
  have hdefines : p.defines Hook.setConfig.name 2 = true := defines_of_caller h
  simp only [Effect.onSetConfig, hdefines, if_true]
  rw [runHook_of_caller hdepth h]
  rfl

theorem onSetConfig_of_fault {key : String} {v : Json R} {x : Value R} {f : Fault R}
    (hv : Value.ofJson v = x)
    (h : caller p depth "on_set_config" [.str key, x] (some before) = some (.fault f, some after)) :
    Effect.onSetConfig (⟨p, before⟩ : ScriptEffect R) key v =
      (.error (.hook .setConfig f.message), ⟨p, after⟩) := by
  subst hv
  have hdefines : p.defines Hook.setConfig.name 2 = true := defines_of_caller h
  simp only [Effect.onSetConfig, hdefines, if_true]
  rw [runHook_of_fault hdepth h]
  rfl

end ScriptEffect

include hdepth in
/-- A machine as a script describes it. -/
theorem ScriptFactory.create_of_caller {id name description entry : String} {o : EffectOptions R}
    {ledCount speed : Nat} {state : Value R} {this? : Option (Value R)}
    (h : caller p depth entry [.map o.told] none =
      some (.ok (HasRuntime.described ledCount speed state), this?))
    (hledCount : 0 < ledCount) (hspeed : 0 < speed) :
    ScriptFactory.create ⟨id, name, description, entry, p⟩ o =
      .ok (Machine.create id ledCount speed ⟨p, state⟩) := by
  have hcount : ¬ (ledCount : Int) < 1 := by omega
  have hinterval : ¬ (speed : Int) < 1 := by omega
  subst hdepth
  rw [ScriptFactory.create, o.ofJson_toJson, Program.call, h]
  simp [HasRuntime.described, machineOf, machineCount, Entries.get?, bind, Except.bind, pure,
    Except.pure, hcount, hinterval]

end Hooks

end LedStrip
