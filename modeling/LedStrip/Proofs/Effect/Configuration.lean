import LedStrip.Proofs.Effect.Parameters
import LedStrip.Proofs.Entries
import LedStrip.Proofs.Number.Lawful

/-!
# Configuring an effect

A built-in effect can be told its parameters when it is created or afterwards, one by one.  Creation
reads them with defaults, an edit reads a value as it is, so the two are written twice; but they
come to the same (`configured_as_created`), whatever the order of the edits.  `Configurable` says
what that takes of one effect: one more parameter at creation is one more edit afterwards.
-/

namespace LedStrip

open Scalar EffectOptions

variable {R : Type} [Scalar R]

/-- A number that is zero. -/
def Json.isZero (v : Json R) : Bool := (v.asNumber?.map (· == Scalar.ofInt 0)).getD false

/-- A parameter that creation does not take for an absent one: it is not `null`, and it is zero only
where zero is a value of its own.  The interval is no parameter of an effect. -/
structure IsParameter (key : String) (v : Json R) : Prop where
  key_ne : key ≠ "speed"
  not_null : v.isNull = false
  not_zero : key ≠ "saturation" → key ≠ "brightness" → v.isZero = false

/-! ### Options with one more parameter -/

namespace EffectOptions

variable {o : EffectOptions R} {key other : String} {v : Json R}

omit [Scalar R] in
theorem param?_withParam_self (hv : v.isNull = false) :
    (o.withParam key v).param? key = some v := by
  simp [param?, withParam, Option.filter, hv]

omit [Scalar R] in
theorem param?_withParam_of_ne (h : other ≠ key) :
    (o.withParam key v).param? other = o.param? other := by
  simp [param?, withParam, Entries.get?_insert_of_ne h]

/-! A reader sees the new parameter under its own key and a default there before. -/

section Readers

variable (hnone : o.param? key = none)

include hnone

theorem colorOr_of_none (c : Rgb) : o.colorOr key c = .ok c := by
  simp only [colorOr, hnone]

theorem countOr_of_none (n : Nat) : o.countOr key n = .ok n := by
  simp only [countOr, hnone]

theorem numberOr_of_none (x : R) : o.numberOr key x = .ok x := by
  simp only [numberOr, hnone]

theorem numberPresentOr_of_none (x : R) : o.numberPresentOr key x = .ok x := by
  simp only [numberPresentOr, hnone]

end Readers

/-! A reader depends on the parameter under its key. -/

section Congr

variable {o' : EffectOptions R} (h : o'.param? key = o.param? key)

include h

theorem colorOr_congr (c : Rgb) : o'.colorOr key c = o.colorOr key c := by
  simp only [colorOr, h]

theorem countOr_congr (n : Nat) : o'.countOr key n = o.countOr key n := by
  simp only [countOr, h]

theorem numberOr_congr (x : R) : o'.numberOr key x = o.numberOr key x := by
  simp only [numberOr, h]

theorem numberPresentOr_congr (x : R) : o'.numberPresentOr key x = o.numberPresentOr key x := by
  simp only [numberPresentOr, h]

end Congr

theorem colorOr_withParam (hv : v.isNull = false) (c : Rgb) :
    (o.withParam key v).colorOr key c = colorValue v := by
  simp only [colorOr, param?_withParam_self hv]

theorem countOr_withParam (hv : v.isNull = false) (hzero : v.isZero = false) (n : Nat) :
    (o.withParam key v).countOr key n = positiveCount key v := by
  unfold Json.isZero at hzero
  simp only [countOr, param?_withParam_self hv, hzero]
  rfl

theorem numberOr_withParam (hv : v.isNull = false) (hzero : v.isZero = false) (x : R) :
    (o.withParam key v).numberOr key x = finiteNumber key v := by
  simp only [numberOr, param?_withParam_self hv]
  cases hy : finiteNumber key v with
  | error e => rfl
  | ok y =>
    have hnumber : v.asNumber? = some y := by
      unfold finiteNumber at hy
      split at hy
      · next z hz =>
        cases hy
        exact (Option.filter_eq_some_iff.mp hz).1
      · cases hy
    have hne : (y == Scalar.ofInt 0) = false := by simpa [Json.isZero, hnumber] using hzero
    simp [Except.map, hne]

theorem numberPresentOr_withParam (hv : v.isNull = false) (x : R) :
    (o.withParam key v).numberPresentOr key x = finiteNumber key v := by
  simp only [numberPresentOr, param?_withParam_self hv]

end EffectOptions

/-- A way to build an effect from options in which its parameters can as well be set afterwards. -/
structure Builtin.Configurable (keys : List String)
    (build : EffectOptions R → Except EffectError (Builtin R)) : Prop where
  keys_eq : ∀ {o e}, build o = .ok e → e.keys = keys
  default : ∀ {o : EffectOptions R}, (∀ key ∈ keys, o.param? key = none) → ∃ e, build o = .ok e
  /-- Only the parameters that the effect knows matter. -/
  congr : ∀ {o o' : EffectOptions R}, (∀ key ∈ keys, o'.param? key = o.param? key) →
    build o' = build o
  /-- One of them more is one more edit. -/
  withParam : ∀ {o : EffectOptions R}, ∀ key ∈ keys, ∀ {v : Json R}, o.param? key = none →
    IsParameter key v → ∀ e, build (o.withParam key v) = .ok e ↔
      ∃ e', build o = .ok e' ∧ Effect.onSetConfig e' key v = (.ok (), e)

namespace Builtin

/-! ### The four effects -/

theorem configurable_blink :
    Configurable (R := R) ["color"] fun o => (Blink.ofOptions o).map blink where
  keys_eq h := by
    obtain ⟨s, -, rfl⟩ := Except.map_eq_ok h
    rfl
  default h := by
    have hcolor := colorOr_of_none (h "color" (by simp)) Blink.defaultColor
    exact ⟨blink { color := Blink.defaultColor }, by simp only [Blink.ofOptions, hcolor]; rfl⟩
  congr h := by simp only [Blink.ofOptions, colorOr_congr (h "color" (by simp))]
  withParam := by
    intro o key hkey v hnone hv e
    obtain rfl : key = "color" := List.mem_singleton.mp hkey
    simp only [Blink.ofOptions, colorOr_of_none hnone, colorOr_withParam hv.not_null]
    cases hc : colorValue v <;>
      simp [hc, bind, Except.bind, pure, Except.pure, Except.map, Effect.onSetConfig,
        Blink.setConfig]

theorem configurable_chase [LawfulScalar R] :
    Configurable (R := R) ["color", "chaseCount"] fun o => (Chase.ofOptions o).map chase where
  keys_eq h := by
    obtain ⟨s, -, rfl⟩ := Except.map_eq_ok h
    rfl
  default h := by
    have hcolor := colorOr_of_none (h "color" (by simp)) Chase.defaultColor
    have hcount := countOr_of_none (h "chaseCount" (by simp)) Chase.defaultCount
    refine ⟨chase (Chase.create Chase.defaultColor Chase.defaultCount), ?_⟩
    simp only [Chase.ofOptions, hcolor, hcount]
    rfl
  congr h := by
    simp only [Chase.ofOptions, colorOr_congr (h "color" (by simp)),
      countOr_congr (h "chaseCount" (by simp))]
  withParam := by
    intro o key hkey v hnone hv e
    have others : ∀ other, other ≠ key → (o.withParam key v).param? other = o.param? other :=
      fun _ => param?_withParam_of_ne
    simp only [List.mem_cons, List.not_mem_nil, or_false] at hkey
    rcases hkey with rfl | rfl
    · simp only [Chase.ofOptions, colorOr_of_none hnone, colorOr_withParam hv.not_null,
        countOr_congr (others "chaseCount" (by decide))]
      cases hc : colorValue v <;> cases o.countOr "chaseCount" Chase.defaultCount <;>
        simp [hc, bind, Except.bind, pure, Except.pure, Except.map, Effect.onSetConfig,
          Chase.setConfig, Chase.create]
    · have hzero : v.isZero = false := hv.not_zero (by decide) (by decide)
      -- creation raises a count to one, an edit does not, but there is nothing to raise
      have hpos : ∀ n, positiveCount "chaseCount" v = .ok n → max n 1 = n := fun n hn =>
        Nat.max_eq_left (positiveCount_pos hn)
      simp only [Chase.ofOptions, countOr_of_none hnone, countOr_withParam hv.not_null hzero,
        colorOr_congr (others "color" (by decide))]
      cases hn : positiveCount "chaseCount" v <;> cases o.colorOr "color" Chase.defaultColor <;>
        simp [hn, hpos, bind, Except.bind, pure, Except.pure, Except.map, Effect.onSetConfig,
          Chase.setConfig, Chase.create]

theorem configurable_rainbow :
    Configurable (R := R) ["hueStep", "hueSpread", "saturation", "brightness"]
      fun o => (Rainbow.ofOptions o).map rainbow where
  keys_eq h := by
    obtain ⟨s, -, rfl⟩ := Except.map_eq_ok h
    rfl
  default h := by
    have hstep := numberOr_of_none (h "hueStep" (by simp)) Rainbow.defaultHueStep
    have hspread := numberOr_of_none (h "hueSpread" (by simp)) Rainbow.defaultHueSpread
    have hsaturation := numberPresentOr_of_none (h "saturation" (by simp)) (Scalar.ofNat 1)
    have hbrightness := numberPresentOr_of_none (h "brightness" (by simp)) (Scalar.ofNat 1)
    refine ⟨rainbow Rainbow.default, ?_⟩
    simp only [Rainbow.ofOptions, hstep, hspread, hsaturation, hbrightness]
    rfl
  congr h := by
    simp only [Rainbow.ofOptions, numberOr_congr (h "hueStep" (by simp)),
      numberOr_congr (h "hueSpread" (by simp)), numberPresentOr_congr (h "saturation" (by simp)),
      numberPresentOr_congr (h "brightness" (by simp))]
  withParam := by
    intro o key hkey v hnone hv e
    have others : ∀ other, other ≠ key → (o.withParam key v).param? other = o.param? other :=
      fun _ => param?_withParam_of_ne
    simp only [List.mem_cons, List.not_mem_nil, or_false] at hkey
    rcases hkey with rfl | rfl | rfl | rfl
    · have hzero : v.isZero = false := hv.not_zero (by decide) (by decide)
      simp only [Rainbow.ofOptions, numberOr_of_none hnone, numberOr_withParam hv.not_null hzero,
        numberOr_congr (others "hueSpread" (by decide)),
        numberPresentOr_congr (others "saturation" (by decide)),
        numberPresentOr_congr (others "brightness" (by decide))]
      cases hx : finiteNumber "hueStep" v <;>
        cases o.numberOr "hueSpread" Rainbow.defaultHueSpread <;>
        cases o.numberPresentOr "saturation" (Scalar.ofNat 1) <;>
        cases o.numberPresentOr "brightness" (Scalar.ofNat 1) <;>
        simp [hx, bind, Except.bind, pure, Except.pure, Except.map, Effect.onSetConfig,
          Rainbow.setConfig]
    · have hzero : v.isZero = false := hv.not_zero (by decide) (by decide)
      simp only [Rainbow.ofOptions, numberOr_of_none hnone, numberOr_withParam hv.not_null hzero,
        numberOr_congr (others "hueStep" (by decide)),
        numberPresentOr_congr (others "saturation" (by decide)),
        numberPresentOr_congr (others "brightness" (by decide))]
      cases hx : finiteNumber "hueSpread" v <;>
        cases o.numberOr "hueStep" Rainbow.defaultHueStep <;>
        cases o.numberPresentOr "saturation" (Scalar.ofNat 1) <;>
        cases o.numberPresentOr "brightness" (Scalar.ofNat 1) <;>
        simp [hx, bind, Except.bind, pure, Except.pure, Except.map, Effect.onSetConfig,
          Rainbow.setConfig]
    · simp only [Rainbow.ofOptions, numberPresentOr_of_none hnone,
        numberPresentOr_withParam hv.not_null, numberOr_congr (others "hueStep" (by decide)),
        numberOr_congr (others "hueSpread" (by decide)),
        numberPresentOr_congr (others "brightness" (by decide))]
      cases hx : finiteNumber "saturation" v <;>
        cases o.numberOr "hueStep" Rainbow.defaultHueStep <;>
        cases o.numberOr "hueSpread" Rainbow.defaultHueSpread <;>
        cases o.numberPresentOr "brightness" (Scalar.ofNat 1) <;>
        simp [hx, bind, Except.bind, pure, Except.pure, Except.map, Effect.onSetConfig,
          Rainbow.setConfig]
    · simp only [Rainbow.ofOptions, numberPresentOr_of_none hnone,
        numberPresentOr_withParam hv.not_null, numberOr_congr (others "hueStep" (by decide)),
        numberOr_congr (others "hueSpread" (by decide)),
        numberPresentOr_congr (others "saturation" (by decide))]
      cases hx : finiteNumber "brightness" v <;>
        cases o.numberOr "hueStep" Rainbow.defaultHueStep <;>
        cases o.numberOr "hueSpread" Rainbow.defaultHueSpread <;>
        cases o.numberPresentOr "saturation" (Scalar.ofNat 1) <;>
        simp [hx, bind, Except.bind, pure, Except.pure, Except.map, Effect.onSetConfig,
          Rainbow.setConfig]

theorem configurable_wave :
    Configurable (R := R) ["color", "waveWidth"] fun o => (Wave.ofOptions o).map wave where
  keys_eq h := by
    obtain ⟨s, -, rfl⟩ := Except.map_eq_ok h
    rfl
  default h := by
    have hcolor := colorOr_of_none (h "color" (by simp)) Wave.defaultColor
    have hwidth := countOr_of_none (h "waveWidth" (by simp)) Wave.defaultWidth
    refine ⟨wave { color := Wave.defaultColor, width := Wave.defaultWidth }, ?_⟩
    simp only [Wave.ofOptions, hcolor, hwidth]
    rfl
  congr h := by
    simp only [Wave.ofOptions, colorOr_congr (h "color" (by simp)),
      countOr_congr (h "waveWidth" (by simp))]
  withParam := by
    intro o key hkey v hnone hv e
    have others : ∀ other, other ≠ key → (o.withParam key v).param? other = o.param? other :=
      fun _ => param?_withParam_of_ne
    simp only [List.mem_cons, List.not_mem_nil, or_false] at hkey
    rcases hkey with rfl | rfl
    · simp only [Wave.ofOptions, colorOr_of_none hnone, colorOr_withParam hv.not_null,
        countOr_congr (others "waveWidth" (by decide))]
      cases hc : colorValue v <;> cases o.countOr "waveWidth" Wave.defaultWidth <;>
        simp [hc, bind, Except.bind, pure, Except.pure, Except.map, Effect.onSetConfig,
          Wave.setConfig]
    · have hzero : v.isZero = false := hv.not_zero (by decide) (by decide)
      simp only [Wave.ofOptions, countOr_of_none hnone, countOr_withParam hv.not_null hzero,
        colorOr_congr (others "color" (by decide))]
      cases hn : positiveCount "waveWidth" v <;> cases o.colorOr "color" Wave.defaultColor <;>
        simp [hn, bind, Except.bind, pure, Except.pure, Except.map, Effect.onSetConfig,
          Wave.setConfig]

/-! ### Edits one by one -/

section Edits

variable {keys : List String} {build : EffectOptions R → Except EffectError (Builtin R)}
  (hbuild : Configurable keys build)

include hbuild

/-- One more parameter is one more edit, whether or not the effect knows its key. -/
theorem Configurable.build_withParam {o : EffectOptions R} {key : String} {v : Json R}
    (hnone : o.param? key = none) (hv : IsParameter key v) (e : Builtin R) :
    build (o.withParam key v) = .ok e ↔
      ∃ e', build o = .ok e' ∧ Effect.onSetConfig e' key v = (.ok (), e) := by
  by_cases hkey : key ∈ keys
  · exact hbuild.withParam key hkey hnone hv e
  · have hsame : build (o.withParam key v) = build o :=
      hbuild.congr fun other hother => param?_withParam_of_ne fun h => hkey (h ▸ hother)
    have hkept : ∀ e', build o = .ok e' → Effect.onSetConfig e' key v = (.ok (), e') :=
      fun e' he' => onSetConfig_of_not_mem (hbuild.keys_eq he' ▸ hkey) v
    rw [hsame]
    constructor
    · intro he
      exact ⟨e, he, hkept e he⟩
    · rintro ⟨e', he', hset⟩
      obtain rfl : e' = e := congrArg Prod.snd ((hkept e' he').symm.trans hset)
      exact he'

end Edits

end Builtin

namespace Machine

variable {σ : Type} [Effect R σ]

/-- Set some parameters one after the other, until one is refused. -/
def configure (m : Machine R σ) : List (String × Json R) → Except EffectError (Machine R σ)
  | [] => .ok m
  | (key, v) :: rest =>
    match m.setConfig key v with
    | (.ok _, m) => m.configure rest
    | (.error e, _) => .error e

theorem configure_concat (m : Machine R σ) (xs : List (String × Json R)) (key : String) (v : Json R)
    (m'' : Machine R σ) : m.configure (xs ++ [(key, v)]) = .ok m'' ↔
      ∃ m', m.configure xs = .ok m' ∧ m'.setConfig key v = (.ok (), m'') := by
  induction xs generalizing m with
  | nil =>
    rcases hset : m.setConfig key v with ⟨_ | _, m'⟩ <;> simp [configure, hset]
  | cons x xs ih =>
    obtain ⟨k, w⟩ := x
    rcases hset : m.setConfig k w with ⟨_ | _, m'⟩
    · simp [configure, hset]
    · simp [configure, hset, ih]

end Machine

namespace EffectOptions

omit [Scalar R] in
/-- Entries of one list in another order give the same parameters. -/
theorem param?_of_perm (ledCount? speed? : Option Nat) {P xs : Entries (Json R)} (h : xs.Perm P)
    (hP : (Entries.keys P).Nodup) :
    (⟨ledCount?, speed?, Entries.ofList xs⟩ : EffectOptions R).param? =
      (⟨ledCount?, speed?, P⟩ : EffectOptions R).param? := by
  have hxs : (Entries.keys xs).Nodup := (h.map Prod.fst).nodup_iff.mpr hP
  have hget : ∀ key, Entries.get? key (Entries.ofList xs) = Entries.get? key P := by
    intro key
    rw [Entries.get?_ofList hxs]
    refine Option.ext fun v => ⟨fun hv => ?_, fun hv => ?_⟩
    · exact Entries.get?_of_mem hP (h.mem_iff.mp (Entries.mem_of_get? hv))
    · exact Entries.get?_of_mem hxs (h.mem_iff.mpr (Entries.mem_of_get? hv))
  funext key
  simp only [param?, hget]

end EffectOptions

namespace Builtin

variable {keys : List String} {build : EffectOptions R → Except EffectError (Builtin R)}

/-- Edits of new parameters, in any order, come to what creation makes of all of them. -/
theorem Configurable.configure_eq_ok_iff (hbuild : Configurable keys build)
    {ledCount? speed? : Option Nat} {e₀ : Builtin R} (he₀ : build ⟨ledCount?, speed?, []⟩ = .ok e₀)
    (id : String) (n speed : Nat) {xs : List (String × Json R)} (hxs : (Entries.keys xs).Nodup)
    (hparams : ∀ x ∈ xs, IsParameter x.1 x.2) (m : Machine R (Builtin R)) :
    (Machine.create id n speed e₀).configure xs = .ok m ↔
      ∃ e, build ⟨ledCount?, speed?, Entries.ofList xs⟩ = .ok e ∧
        Machine.create id n speed e = m := by
  induction xs using List.reverseRecOn generalizing m with
  | nil => simp [Machine.configure, Entries.ofList, he₀]
  | append_singleton xs x ih =>
    obtain ⟨key, v⟩ := x
    let o : EffectOptions R := ⟨ledCount?, speed?, Entries.ofList xs⟩
    have hv : IsParameter key v := hparams (key, v) (by simp)
    obtain ⟨hnodup, hfresh⟩ : (Entries.keys xs).Nodup ∧ key ∉ Entries.keys xs := by
      simp only [Entries.keys, List.map_append, List.map_cons, List.map_nil,
        List.nodup_append] at hxs
      exact ⟨hxs.1, fun hmem => hxs.2.2 key hmem key (by simp) rfl⟩
    have hlast : (⟨ledCount?, speed?, Entries.ofList (xs ++ [(key, v)])⟩ : EffectOptions R) =
        o.withParam key v := by
      simp [o, EffectOptions.withParam, Entries.ofList]
    have hnone : o.param? key = none := by
      simp [o, param?, Entries.get?_ofList hnodup, Entries.get?_eq_none hfresh]
    have hset (e : Builtin R) : (Machine.create id n speed e : Machine R _).setConfig key v =
        ((Effect.onSetConfig e key v).1,
          Machine.create id n speed (Effect.onSetConfig e key v).2) :=
      Machine.setConfig_of_ne _ hv.key_ne v
    rw [hlast, Machine.configure_concat]
    simp only [ih hnodup fun x hx => hparams x (List.mem_append_left _ hx),
      hbuild.build_withParam hnone hv]
    constructor
    · rintro ⟨-, ⟨e, he, rfl⟩, hm⟩
      rw [hset] at hm
      obtain ⟨hanswer, rfl⟩ := Prod.mk.inj hm
      exact ⟨_, ⟨e, he, Prod.ext hanswer rfl⟩, rfl⟩
    · rintro ⟨e', ⟨e, he, hedit⟩, rfl⟩
      exact ⟨_, ⟨e, he, rfl⟩, by rw [hset, hedit]⟩

/-- Factories of built-in effects build what can be configured. -/
theorem exists_configurable [LawfulScalar R] {f : Factory R (Builtin R)} (hf : f ∈ factories) :
    ∃ keys build defaultSpeed, Configurable keys build ∧ ∀ o, f.create o =
      (build o).map (Machine.create f.id o.ledCount (o.speedOr defaultSpeed)) := by
  have create_eq (id name description : String) (defaultSpeed : Nat)
      (build : EffectOptions R → Except EffectError (Builtin R)) (o : EffectOptions R) :
      (factory id name description defaultSpeed build).create o =
        (build o).map (Machine.create id o.ledCount (o.speedOr defaultSpeed)) := by
    unfold factory
    cases h : build o <;> simp [h, bind, Except.bind, pure, Except.pure, Except.map]
  simp only [factories, List.mem_cons, List.not_mem_nil, or_false] at hf
  rcases hf with rfl | rfl | rfl | rfl
  · exact ⟨_, _, _, configurable_blink, create_eq _ _ _ _ _⟩
  · exact ⟨_, _, _, configurable_chase, create_eq _ _ _ _ _⟩
  · exact ⟨_, _, _, configurable_rainbow, create_eq _ _ _ _ _⟩
  · exact ⟨_, _, _, configurable_wave, create_eq _ _ _ _ _⟩

/-- **Parameters can be set at creation or afterwards, in any order.**  A built-in effect is created
without parameters; then creation with some parameters succeeds with a machine exactly when setting
them one by one, in whatever order, succeeds in full and ends in this very machine. -/
theorem configured_as_created [LawfulScalar R] {f : Factory R (Builtin R)} (hf : f ∈ factories)
    (ledCount? speed? : Option Nat) {P : Entries (Json R)} (hP : (Entries.keys P).Nodup)
    (hparams : ∀ x ∈ P, IsParameter x.1 x.2) :
    ∃ m₀, f.create ⟨ledCount?, speed?, []⟩ = .ok m₀ ∧
      ∀ xs : List (String × Json R), xs.Perm P →
        ∀ m, f.create ⟨ledCount?, speed?, P⟩ = .ok m ↔ m₀.configure xs = .ok m := by
  obtain ⟨keys, build, defaultSpeed, hbuild, hcreate⟩ := exists_configurable hf
  obtain ⟨e₀, he₀⟩ : ∃ e₀, build ⟨ledCount?, speed?, []⟩ = .ok e₀ :=
    hbuild.default fun _ _ => rfl
  refine ⟨_, by rw [hcreate, he₀]; rfl, fun xs hxs m => ?_⟩
  have hnodup : (Entries.keys xs).Nodup := (hxs.map Prod.fst).nodup_iff.mpr hP
  have hsame : build ⟨ledCount?, speed?, Entries.ofList xs⟩ = build ⟨ledCount?, speed?, P⟩ :=
    hbuild.congr fun key _ => congrFun (param?_of_perm ledCount? speed? hxs hP) key
  have hedits := hbuild.configure_eq_ok_iff he₀ f.id
    (⟨ledCount?, speed?, P⟩ : EffectOptions R).ledCount
    ((⟨ledCount?, speed?, P⟩ : EffectOptions R).speedOr defaultSpeed) hnodup
    (fun x hx => hparams x (hxs.mem_iff.mp hx)) m
  rw [hcreate]
  refine Iff.trans ?_ hedits.symm
  rw [hsame]
  cases build ⟨ledCount?, speed?, P⟩ <;> simp [Except.map]

/-- Three red points, told at creation or color first. -/
theorem red_points_either_way :
    let red : Json Rat := .obj [("b", .int 0), ("g", .int 0), ("mode", .str "rgb"), ("r", .int 255)]
    let P : Entries (Json Rat) := [("chaseCount", .int 3), ("color", red)]
    (Entries.keys P).Nodup ∧ (∀ x ∈ P, IsParameter x.1 x.2) ∧
      ∃ m₀ m, chaseFactory.create ⟨some 4, none, []⟩ = .ok m₀ ∧
        chaseFactory.create ⟨some 4, none, P⟩ = .ok m ∧
        m₀.configure [("color", red), ("chaseCount", .int 3)] = .ok m ∧
        m.effect = .chase { color := ⟨255, 0, 0⟩, count := 3 } := by
  intro red P
  have hP : (Entries.keys P).Nodup := by decide
  have hparams : ∀ x ∈ P, IsParameter x.1 x.2 := by
    simp only [P, List.mem_cons, List.not_mem_nil, or_false]
    rintro x (rfl | rfl)
    · exact ⟨by decide, rfl, fun _ _ => rfl⟩
    · exact ⟨by decide, rfl, fun _ _ => rfl⟩
  obtain ⟨m₀, hm₀, h⟩ :=
    configured_as_created (R := Rat) (f := chaseFactory) (.tail _ (.head _)) (some 4) none hP
      hparams
  have hm : chaseFactory.create ⟨some 4, none, P⟩ =
      .ok (Machine.create "chase" 4 80 (.chase { color := ⟨255, 0, 0⟩, count := 3 })) := by rfl
  exact ⟨hP, hparams, m₀, _, hm₀, hm, (h _ (List.Perm.swap _ _ _) _).mp hm, rfl⟩

end Builtin

end LedStrip
