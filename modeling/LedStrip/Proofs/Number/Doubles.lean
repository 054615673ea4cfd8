import Mathlib.Algebra.Order.Field.Power
import Mathlib.Order.Compare
import Mathlib.Tactic.Linarith
import Mathlib.Tactic.Ring
import LedStrip.Number.Binary64

/-!
# Doubles as numbers

The value that `toRat?` reads off the bits of a double is the one its parts have in the model of the
core library (`toRat?_eq`), where arithmetic is done on a sign, a significand and an exponent.  The
parts of a word are canonical: a significand is as long as it can be.  Hence doubles are compared as
their values are (`compare_eq`), and parts that are packed into a word and taken out again keep their
value (`value?_unpack_pack`).
-/

namespace LedStrip
namespace Binary64

open Float.Model (Format UnpackedFloat)
open Float.Model.UnpackedFloat

/-! ### Values -/

def signed : Sign → Rat → Rat
  | .positive, q => q
  | .negative, q => -q

/-- The value of finite parts. -/
def value? : UnpackedFloat → Option Rat
  | .zero _ => some 0
  | .finite s m e _ => some (signed s (dyadic m e))
  | _ => none

section Dyadic

variable {m m' : Nat} {e e' : Int}

theorem two_zpow_pos (e : Int) : (0 : Rat) < 2 ^ e := zpow_pos (by norm_num) e

theorem dyadic_eq (m : Nat) (e : Int) : dyadic m e = m * 2 ^ e := by
  unfold dyadic
  split
  · next h =>
    obtain ⟨k, rfl⟩ := Int.eq_ofNat_of_zero_le h
    rw [Rat.mkRat_one, Int.toNat_natCast, zpow_natCast]
    push_cast
    rfl
  · next h =>
    obtain ⟨k, hk⟩ := Int.eq_ofNat_of_zero_le (show 0 ≤ -e by omega)
    rw [show e = -(k : Int) by omega, zpow_neg, neg_neg, Int.toNat_natCast, zpow_natCast,
      Rat.mkRat_eq_div]
    push_cast
    rw [div_eq_mul_inv]

theorem dyadic_zero (e : Int) : dyadic 0 e = 0 := by
  rw [dyadic_eq, Nat.cast_zero, zero_mul]

theorem dyadic_pos (hm : 0 < m) (e : Int) : 0 < dyadic m e := by
  rw [dyadic_eq]
  exact mul_pos (Nat.cast_pos.mpr hm) (two_zpow_pos e)

theorem dyadic_nonneg (m : Nat) (e : Int) : 0 ≤ dyadic m e := by
  rw [dyadic_eq]
  exact mul_nonneg (Nat.cast_nonneg m) (two_zpow_pos e).le

theorem dyadic_lt_of_lt (h : m < m') (e : Int) : dyadic m e < dyadic m' e := by
  rw [dyadic_eq, dyadic_eq]
  exact mul_lt_mul_of_pos_right (Nat.cast_lt.mpr h) (two_zpow_pos e)

theorem dyadic_le_of_le (h : m ≤ m') (e : Int) : dyadic m e ≤ dyadic m' e := by
  rw [dyadic_eq, dyadic_eq]
  exact mul_le_mul_of_nonneg_right (Nat.cast_le.mpr h) (two_zpow_pos e).le

theorem dyadic_le_of_exponent_le (m : Nat) (h : e ≤ e') : dyadic m e ≤ dyadic m e' := by
  rw [dyadic_eq, dyadic_eq]
  exact mul_le_mul_of_nonneg_left (zpow_le_zpow_right₀ (by norm_num) h) (Nat.cast_nonneg m)

theorem dyadic_mul_two_pow (m k : Nat) (e : Int) : dyadic (m * 2 ^ k) e = dyadic m (k + e) := by
  rw [dyadic_eq, dyadic_eq, zpow_add₀ (by norm_num), zpow_natCast]
  push_cast
  ring

theorem dyadic_two_pow (k : Nat) (e : Int) : dyadic (2 ^ k) e = 2 ^ ((k : Int) + e) := by
  rw [← Nat.one_mul (2 ^ k), dyadic_mul_two_pow, dyadic_eq, Nat.cast_one, one_mul]

end Dyadic

theorem signed_dyadic_zero (s : Sign) (e : Int) : signed s (dyadic 0 e) = 0 := by
  rw [dyadic_zero]
  cases s with
  | positive => rfl
  | negative => exact neg_zero

theorem abs_signed_dyadic (s : Sign) (m : Nat) (e : Int) : |signed s (dyadic m e)| = dyadic m e := by
  cases s with
  | positive => exact abs_of_nonneg (dyadic_nonneg m e)
  | negative => exact (abs_neg _).trans (abs_of_nonneg (dyadic_nonneg m e))

/-! ### The parts of a word -/

/-- The sign of a word. -/
def signOf (n : Nat) : Sign := if n < 2 ^ 63 then .positive else .negative

/-- Significand and exponent of a finite word. -/
def fields (n : Nat) : Nat × Int :=
  let e : Nat := n / 2 ^ 52 % 2048
  let f : Nat := n % 2 ^ 52
  if e = 0 then (f, -1074) else (f + 2 ^ 52, (e : Int) - 1075)

section Unpack

variable (w : UInt64)

theorem toNat_unpackMantissa : (@unpackMantissa .binary64 w.toBitVec).toNat = w.toNat % 2 ^ 52 :=
  BitVec.extractLsb_toNat 51 0 w.toBitVec

theorem toNat_unpackExponent :
    (@unpackExponent .binary64 w.toBitVec).toNat = w.toNat / 2 ^ 52 % 2048 := by
  rw [← Nat.shiftRight_eq_div_pow]
  exact BitVec.extractLsb_toNat 62 52 w.toBitVec

theorem toNat_unpackSign : (@unpackSign .binary64 w.toBitVec).toNat = w.toNat / 2 ^ 63 := by
  have hlt : w.toNat / 2 ^ 63 < 2 := by have := w.toNat_lt; omega
  rw [← Nat.mod_eq_of_lt hlt, ← Nat.shiftRight_eq_div_pow]
  exact BitVec.extractLsb_toNat 63 63 w.toBitVec

theorem ofBitVec_unpackSign :
    Sign.ofBitVec (@unpackSign .binary64 w.toBitVec) = signOf w.toNat := by
  have hsign := toNat_unpackSign w
  have hlt := w.toNat_lt
  unfold Sign.ofBitVec signOf
  by_cases h : w.toNat < 2 ^ 63
  · rw [if_pos h, if_pos (BitVec.eq_of_toNat_eq (by rw [hsign]; simp; omega))]
  · rw [if_neg h, if_neg]
    intro h0
    rw [h0] at hsign
    simp at hsign
    omega

theorem toNat_implicit (m : BitVec 52) : (1#1 ++ m).toNat = 2 ^ 52 + m.toNat := by
  rw [BitVec.toNat_append, ← Nat.shiftLeft_add_eq_or_of_lt m.isLt]
  rfl

theorem finite_congr {s : Sign} {m m' : Nat} {e e' : Int} {h : 0 < m} {h' : 0 < m'} (hm : m = m')
    (he : e = e') : UnpackedFloat.finite s m e h = .finite s m' e' h' := by
  subst hm he
  rfl

theorem unpack_eq :
    unpack Format.binary64 w.toBitVec =
      if w.toNat / 2 ^ 52 % 2048 = 2047 then
        if w.toNat % 2 ^ 52 = 0 then .infinity (signOf w.toNat) else .notANumber
      else if h : 0 < (fields w.toNat).1 then
        .finite (signOf w.toNat) (fields w.toNat).1 (fields w.toNat).2 h
      else .zero (signOf w.toNat) := by
  have hm := toNat_unpackMantissa w
  have he := toNat_unpackExponent w
  have hones : @unpackExponent .binary64 w.toBitVec = -1#_ ↔ w.toNat / 2 ^ 52 % 2048 = 2047 := by
    rw [← BitVec.toNat_inj, he]
    rfl
  have hzero : @unpackExponent .binary64 w.toBitVec = 0#_ ↔ w.toNat / 2 ^ 52 % 2048 = 0 := by
    rw [← BitVec.toNat_inj, he]
    rfl
  have hmzero : @unpackMantissa .binary64 w.toBitVec = 0#_ ↔ w.toNat % 2 ^ 52 = 0 := by
    rw [← BitVec.toNat_inj, hm]
    rfl
  unfold unpack
  dsimp only
  rw [ofBitVec_unpackSign]
  by_cases h1 : w.toNat / 2 ^ 52 % 2048 = 2047
  · rw [if_pos (hones.mpr h1), if_pos h1]
    by_cases hf : w.toNat % 2 ^ 52 = 0
    · rw [if_pos (hmzero.mpr hf), if_pos hf]
    · rw [if_neg (mt hmzero.mp hf), if_neg hf]
  rw [if_neg (mt hones.mp h1), if_neg h1]
  by_cases h0 : w.toNat / 2 ^ 52 % 2048 = 0
  · have hfields : fields w.toNat = (w.toNat % 2 ^ 52, -1074) := if_pos h0
    rw [if_pos (hzero.mpr h0)]
    by_cases hf : w.toNat % 2 ^ 52 = 0
    · rw [dif_pos (hmzero.mpr hf), dif_neg (by rw [hfields, hf]; exact Nat.lt_irrefl 0)]
    · rw [dif_neg (mt hmzero.mp hf), dif_pos (by rw [hfields]; exact Nat.pos_of_ne_zero hf)]
      refine finite_congr (by rw [hm, hfields]) ?_
      rw [he, h0, hfields]
      rfl
  · have hfields : fields w.toNat =
        (w.toNat % 2 ^ 52 + 2 ^ 52, ((w.toNat / 2 ^ 52 % 2048 : Nat) : Int) - 1075) := if_neg h0
    rw [if_neg (mt hzero.mp h0), dif_pos (by rw [hfields]; exact Nat.succ_pos _)]
    refine finite_congr ((toNat_implicit _).trans (by rw [hm, hfields, Nat.add_comm])) ?_
    rw [he, hfields]
    rfl

theorem value?_unpack :
    value? (unpack Format.binary64 w.toBitVec) =
      if w.toNat / 2 ^ 52 % 2048 = 2047 then none
      else some (signed (signOf w.toNat) (dyadic (fields w.toNat).1 (fields w.toNat).2)) := by
  rw [unpack_eq]
  by_cases htop : w.toNat / 2 ^ 52 % 2048 = 2047
  · rw [if_pos htop, if_pos htop]
    by_cases hf : w.toNat % 2 ^ 52 = 0
    · rw [if_pos hf]
      rfl
    · rw [if_neg hf]
      rfl
  · rw [if_neg htop, if_neg htop]
    by_cases hm : 0 < (fields w.toNat).1
    · rw [dif_pos hm]
      rfl
    · rw [dif_neg hm, Nat.eq_zero_of_not_pos hm, signed_dyadic_zero]
      rfl

end Unpack

theorem negative_eq (x : Float) : negative x = decide (2 ^ 63 ≤ x.toBits.toNat) := by
  have hlt := x.toBits.toNat_lt
  have hshift : (x.toBits >>> 63).toNat = x.toBits.toNat / 2 ^ 63 := by
    simp [Nat.shiftRight_eq_div_pow]
  rw [negative, Bool.eq_iff_iff, beq_iff_eq, decide_eq_true_iff, ← UInt64.toNat_inj, hshift]
  show _ = 1 ↔ _
  omega

theorem magnitude?_eq (x : Float) :
    magnitude? x = if x.toBits.toNat / 2 ^ 52 % 2048 = 2047 then none
      else some (fields x.toBits.toNat) := by
  unfold magnitude? fields
  dsimp only
  split
  · rfl
  · split <;> rfl

/-- The exact value of a double is that of its parts. -/
theorem toRat?_eq (x : Float) : toRat? x = value? x.toModel.unpack := by
  refine Eq.trans ?_ (value?_unpack x.toBits).symm
  rw [toRat?, magnitude?_eq, negative_eq]
  by_cases hexp : x.toBits.toNat / 2 ^ 52 % 2048 = 2047
  · rw [if_pos hexp, if_pos hexp]
    rfl
  · rw [if_neg hexp, if_neg hexp, Option.map_some, signOf]
    by_cases h : x.toBits.toNat < 2 ^ 63
    · simp only [decide_eq_true_eq, if_neg (not_le.mpr h), if_pos h]
      rfl
    · simp only [decide_eq_true_eq, if_pos (not_lt.mp h), if_neg h]
      rfl

/-! ### Canonical parts -/

/-- A significand of 53 digits, or one rounded up to the next power of two.  It is as long as it can
be: only at the smallest exponent there are digits missing. -/
structure Aligned (m : Nat) (e : Int) : Prop where
  le : m ≤ 2 ^ 53
  ge : -1074 ≤ e
  full : e = -1074 ∨ 2 ^ 52 ≤ m

/-- Significand and exponent of a finite double. -/
structure Fits (m : Nat) (e : Int) : Prop extends Aligned m e where
  lt : m < 2 ^ 53
  exponent_le : e ≤ 971

/-- Parts that a word can have. -/
def Canonical : UnpackedFloat → Prop
  | .finite _ m e _ => Fits m e
  | _ => True

theorem fits_fields {n : Nat} (h : n / 2 ^ 52 % 2048 ≠ 2047) : Fits (fields n).1 (fields n).2 := by
  have hm : n % 2 ^ 52 < 2 ^ 52 := Nat.mod_lt _ (by decide)
  unfold fields
  dsimp only
  split
  · exact ⟨⟨by dsimp only; omega, le_rfl, .inl rfl⟩, by dsimp only; omega, by norm_num⟩
  · exact ⟨⟨by dsimp only; omega, by dsimp only; omega, .inr (by dsimp only; omega)⟩,
      by dsimp only; omega, by dsimp only; omega⟩

theorem canonical_unpack (w : UInt64) : Canonical (unpack Format.binary64 w.toBitVec) := by
  rw [unpack_eq]
  by_cases htop : w.toNat / 2 ^ 52 % 2048 = 2047
  · rw [if_pos htop]
    by_cases hf : w.toNat % 2 ^ 52 = 0
    · rw [if_pos hf]
      trivial
    · rw [if_neg hf]
      trivial
  · rw [if_neg htop]
    by_cases hm : 0 < (fields w.toNat).1
    · rw [dif_pos hm]
      exact fits_fields htop
    · rw [dif_neg hm]
      trivial

/-- A full significand is no less than any that has a smaller exponent. -/
theorem Aligned.dyadic_le {m : Nat} {e e' : Int} (h : Aligned m e') (he : -1074 ≤ e)
    (hlt : e < e') : dyadic (2 ^ 53) e ≤ dyadic m e' := by
  have hfull : 2 ^ 52 ≤ m := h.full.resolve_left (by omega)
  calc dyadic (2 ^ 53) e = (2 : Rat) ^ (53 + e) := dyadic_two_pow 53 e
    _ ≤ (2 : Rat) ^ (52 + e') := zpow_le_zpow_right₀ (by norm_num) (by omega)
    _ = dyadic (2 ^ 52) e' := (dyadic_two_pow 52 e').symm
    _ ≤ dyadic m e' := dyadic_le_of_le hfull e'

/-! ### Order -/

theorem Fits.dyadic_lt {m m' : Nat} {e e' : Int} (h : Fits m e) (h' : Fits m' e') (he : e < e') :
    dyadic m e < dyadic m' e' :=
  (dyadic_lt_of_lt h.lt e).trans_le (h'.toAligned.dyadic_le h.ge he)

/-- Exponents decide before significands do. -/
theorem compare_fits {m m' : Nat} {e e' : Int} (h : Fits m e) (h' : Fits m' e') :
    (compare e e').then (compare m m') = cmp (dyadic m e) (dyadic m' e') := by
  rcases lt_trichotomy e e' with he | rfl | he
  · rw [(cmp_eq_lt_iff _ _).mpr (h.dyadic_lt h' he), Int.compare_eq_lt.mpr he]
    rfl
  · rw [Int.compare_eq_eq.mpr rfl]
    rcases lt_trichotomy m m' with hm | rfl | hm
    · rw [(cmp_eq_lt_iff _ _).mpr (dyadic_lt_of_lt hm e), Nat.compare_eq_lt.mpr hm]
      rfl
    · rw [cmp_self_eq_eq, Nat.compare_eq_eq.mpr rfl]
      rfl
    · rw [(cmp_eq_gt_iff _ _).mpr (dyadic_lt_of_lt hm e), Nat.compare_eq_gt.mpr hm]
      rfl
  · rw [(cmp_eq_gt_iff _ _).mpr (h'.dyadic_lt h he), Int.compare_eq_gt.mpr he]
    rfl

theorem signed_lt_signed {m m' : Nat} (hm : 0 < m) (hm' : 0 < m') (e e' : Int) :
    signed .negative (dyadic m e) < signed .positive (dyadic m' e') :=
  (neg_neg_of_pos (dyadic_pos hm e)).trans (dyadic_pos hm' e')

/-- Canonical parts are compared as their values are. -/
theorem compare_eq {u u' : UnpackedFloat} (hu : Canonical u) (hu' : Canonical u') {p q : Rat}
    (hp : value? u = some p) (hq : value? u' = some q) : u.compare u' = some (cmp p q) := by
  cases u with
  | infinity s => cases hp
  | notANumber => cases hp
  | zero s =>
    obtain rfl : 0 = p := Option.some.inj hp
    cases u' with
    | infinity s' => cases hq
    | notANumber => cases hq
    | zero s' =>
      obtain rfl : 0 = q := Option.some.inj hq
      rfl
    | finite s' m' e' hm' =>
      have hpos := dyadic_pos hm' e'
      obtain rfl := Option.some.inj hq
      cases s' with
      | positive => exact congrArg some ((cmp_eq_lt_iff _ _).mpr hpos).symm
      | negative => exact congrArg some ((cmp_eq_gt_iff _ _).mpr (neg_neg_of_pos hpos)).symm
  | finite s m e hm =>
    have hpos := dyadic_pos hm e
    obtain rfl := Option.some.inj hp
    cases u' with
    | infinity s' => cases hq
    | notANumber => cases hq
    | zero s' =>
      obtain rfl : 0 = q := Option.some.inj hq
      cases s with
      | positive => exact congrArg some ((cmp_eq_gt_iff _ _).mpr hpos).symm
      | negative => exact congrArg some ((cmp_eq_lt_iff _ _).mpr (neg_neg_of_pos hpos)).symm
    | finite s' m' e' hm' =>
      obtain rfl := Option.some.inj hq
      cases s with
      | positive =>
        cases s' with
        | positive => exact congrArg some (compare_fits hu hu')
        | negative =>
          exact congrArg some ((cmp_eq_gt_iff _ _).mpr (signed_lt_signed hm' hm e' e)).symm
      | negative =>
        cases s' with
        | positive =>
          exact congrArg some ((cmp_eq_lt_iff _ _).mpr (signed_lt_signed hm hm' e e')).symm
        | negative =>
          have hanti : StrictAnti (Neg.neg : Rat → Rat) := fun _ _ => neg_lt_neg
          have hneg : (cmp (dyadic m e) (dyadic m' e')).swap =
              cmp (-dyadic m e) (-dyadic m' e') := (cmp_swap _ _).trans (hanti.cmp_map_eq _ _).symm
          exact congrArg some ((congrArg Ordering.swap (compare_fits hu hu')).trans hneg)

section Order

variable {x y : Float} {p q : Rat} (hx : toRat? x = some p) (hy : toRat? y = some q)

include hx hy

theorem compare_eq_cmp : x.toModel.unpack.compare y.toModel.unpack = some (cmp p q) :=
  compare_eq (canonical_unpack x.toBits) (canonical_unpack y.toBits)
    ((toRat?_eq x).symm.trans hx) ((toRat?_eq y).symm.trans hy)

theorem lt_iff_of_toRat? : x < y ↔ p < q := by
  have hlt : x < y ↔ (x.toModel.unpack.compare y.toModel.unpack == some .lt) = true :=
    decide_eq_true_iff
  rw [hlt, compare_eq_cmp hx hy, beq_iff_eq, Option.some.injEq, cmp_eq_lt_iff]

theorem le_iff_of_toRat? : x ≤ y ↔ p ≤ q := by
  have hle : x ≤ y ↔ (x.toModel.unpack.compare y.toModel.unpack).any (·.isLE) = true :=
    decide_eq_true_iff
  rw [hle, compare_eq_cmp hx hy, Option.any_some]
  rcases lt_trichotomy p q with h | rfl | h
  · rw [(cmp_eq_lt_iff p q).mpr h]
    exact iff_of_true rfl h.le
  · rw [cmp_self_eq_eq]
    exact iff_of_true rfl le_rfl
  · rw [(cmp_eq_gt_iff p q).mpr h]
    exact iff_of_false Bool.false_ne_true h.not_ge

theorem beq_iff_of_toRat? : (x == y) = true ↔ p = q := by
  have hbeq : (x == y) = (x.toModel.unpack.compare y.toModel.unpack == some .eq) := rfl
  rw [hbeq, compare_eq_cmp hx hy, beq_iff_eq, Option.some.injEq, cmp_eq_eq_iff]

end Order

/-! ### Words of a value -/

def signBit : Sign → Nat
  | .positive => 0
  | .negative => 2 ^ 63

/-- The bits of a magnitude, those of infinity when it is too large.  The leading digit of a full
significand goes into the exponent, and so does the one of a power of two too large. -/
def bitsOf (m : Nat) (e : Int) : Nat := min (2047 * 2 ^ 52) ((e + 1074).toNat * 2 ^ 52 + m)

theorem bitsOf_lt_top {m : Nat} {e : Int} (hm : m ≤ 2 ^ 53) (he : e ≤ 971)
    (hlt : e = 971 → m < 2 ^ 53) : bitsOf m e < 2047 * 2 ^ 52 := by
  unfold bitsOf
  omega

theorem Fits.bitsOf_lt {m : Nat} {e : Int} (h : Fits m e) : bitsOf m e < 2047 * 2 ^ 52 :=
  bitsOf_lt_top h.le h.exponent_le fun _ => h.lt

section SignBit

variable (s : Sign) {b : Nat} (hb : b ≤ 2047 * 2 ^ 52)

include hb

theorem signOf_signBit : signOf (signBit s + b) = s := by
  unfold signOf
  cases s with
  | positive => exact if_pos (by simp only [signBit]; omega)
  | negative => exact if_neg (by simp only [signBit]; omega)

/-- The bits below the sign are not changed by it. -/
theorem fields_signBit :
    (signBit s + b) / 2 ^ 52 % 2048 = b / 2 ^ 52 ∧ fields (signBit s + b) = fields b := by
  have hexp : (signBit s + b) / 2 ^ 52 % 2048 = b / 2 ^ 52 := by
    cases s <;> simp only [signBit] <;> omega
  have hexp' : b / 2 ^ 52 % 2048 = b / 2 ^ 52 := by omega
  have hfrac : (signBit s + b) % 2 ^ 52 = b % 2 ^ 52 := by
    cases s <;> simp only [signBit] <;> omega
  refine ⟨hexp, ?_⟩
  unfold fields
  rw [hexp, hexp', hfrac]

end SignBit

theorem fields_mul_add {k f : Nat} (hk : k < 2048) (hf : f < 2 ^ 52) :
    fields (k * 2 ^ 52 + f) = if k = 0 then (f, -1074) else (f + 2 ^ 52, (k : Int) - 1075) := by
  have hdiv : (k * 2 ^ 52 + f) / 2 ^ 52 % 2048 = k := by omega
  have hmod : (k * 2 ^ 52 + f) % 2 ^ 52 = f := by omega
  unfold fields
  rw [hdiv, hmod]

theorem dyadic_carry (e : Int) : dyadic (2 ^ 53) e = dyadic (2 ^ 52) (e + 1) := by
  rw [dyadic_eq, dyadic_eq, zpow_add_one₀ (by norm_num)]
  push_cast
  ring

/-- The bits of a magnitude are read as its value. -/
theorem dyadic_fields_bitsOf {m : Nat} {e : Int} (h : Aligned m e)
    (hlt : bitsOf m e < 2047 * 2 ^ 52) :
    dyadic (fields (bitsOf m e)).1 (fields (bitsOf m e)).2 = dyadic m e := by
  obtain ⟨k, hk⟩ := Int.eq_ofNat_of_zero_le (show 0 ≤ e + 1074 by have := h.ge; omega)
  obtain rfl : e = (k : Int) - 1074 := by omega
  have hbits : bitsOf m ((k : Int) - 1074) = k * 2 ^ 52 + m := by unfold bitsOf at hlt ⊢; omega
  have hle := h.le
  have hfull := h.full
  rw [hbits] at hlt ⊢
  rcases Nat.lt_or_ge m (2 ^ 52) with hm | hm
  · obtain rfl : k = 0 := by omega
    rw [fields_mul_add (by norm_num) hm, if_pos rfl]
    rfl
  rcases Nat.lt_or_ge m (2 ^ 53) with hm' | hm'
  · have hfields : fields (k * 2 ^ 52 + m) = (m, (k : Int) - 1074) := by
      rw [show k * 2 ^ 52 + m = (k + 1) * 2 ^ 52 + (m - 2 ^ 52) by omega,
        fields_mul_add (by omega) (by omega), if_neg k.succ_ne_zero, Prod.mk.injEq]
      omega
    rw [hfields]
  · obtain rfl : m = 2 ^ 53 := by omega
    have hfields : fields (k * 2 ^ 52 + 2 ^ 53) = (2 ^ 52, (k : Int) - 1074 + 1) := by
      rw [show k * 2 ^ 52 + 2 ^ 53 = (k + 2) * 2 ^ 52 + 0 by omega,
        fields_mul_add (by omega) (by norm_num), if_neg (Nat.succ_ne_zero _), Prod.mk.injEq]
      omega
    rw [hfields, dyadic_carry]

/-- A word with these bits has this value. -/
theorem value?_unpack_of_toNat {w : UInt64} {s : Sign} {m : Nat} {e : Int} (h : Aligned m e)
    (hw : w.toNat = signBit s + bitsOf m e) :
    value? (unpack Format.binary64 w.toBitVec) =
      if bitsOf m e = 2047 * 2 ^ 52 then none else some (signed s (dyadic m e)) := by
  have hle : bitsOf m e ≤ 2047 * 2 ^ 52 := Nat.min_le_left _ _
  rw [value?_unpack, hw, (fields_signBit s hle).1, (fields_signBit s hle).2, signOf_signBit s hle]
  by_cases htop : bitsOf m e = 2047 * 2 ^ 52
  · rw [if_pos htop, if_pos (by omega)]
  · rw [if_neg htop, if_neg (by omega), dyadic_fields_bitsOf h (by omega)]

/-! ### Packing -/

section Pack

variable (s : Sign)

theorem toNat_packComponents {k f : Nat} {e : BitVec 11} {m : BitVec 52} (he : e.toNat = k)
    (hm : m.toNat = f) :
    (packComponents Format.binary64 s e m).toNat = signBit s + (k * 2 ^ 52 + f) := by
  have hsign : s.toBitVec.toNat * 2 ^ 63 = signBit s := by cases s <;> rfl
  have hparts : (s.toBitVec ++ e ++ m).toNat = (s.toBitVec.toNat * 2 ^ 11 + k) * 2 ^ 52 + f := by
    rw [BitVec.toNat_append, BitVec.toNat_append, ← Nat.shiftLeft_add_eq_or_of_lt e.isLt,
      ← Nat.shiftLeft_add_eq_or_of_lt m.isLt, Nat.shiftLeft_eq, Nat.shiftLeft_eq, he, hm]
  refine hparts.trans ?_
  rw [← hsign]
  ring

theorem toNat_packedInfinity :
    (packedInfinity Format.binary64 s).toNat = signBit s + 2047 * 2 ^ 52 := by
  rw [← Nat.add_zero (2047 * 2 ^ 52)]
  exact toNat_packComponents s (by decide) (by decide)

theorem toNat_packedZero : (packedZero Format.binary64 s).toNat = signBit s :=
  toNat_packComponents s (k := 0) (f := 0) (by decide) (by decide)

theorem toNat_pack_finite {m : Nat} {e : Int} (hm : 0 < m) (h : Aligned m e) (hlt : m < 2 ^ 53) :
    (pack Format.binary64 (.finite s m e hm)).toNat = signBit s + bitsOf m e := by
  have hge := h.ge
  have hfull := h.full
  have hbias : e + (Format.binary64.exponentBias : Int) +
      (Format.binary64.mantissaBitsWithoutImplicit : Int) = e + 1075 := by
    rw [add_assoc]
    rfl
  have htop : 2 ^ Format.binary64.exponentBits ≤ (e + 1075).toNat + 1 ↔ 971 < e := by
    show 2 ^ 11 ≤ _ ↔ _
    omega
  have hlog : m.log2 + 1 = Format.binary64.mantissaBits ↔ 2 ^ 52 ≤ m := by
    have hdigits : m.log2 < 53 := (Nat.log2_lt (by omega)).mpr hlt
    rw [← Nat.le_log2 (by omega)]
    show m.log2 + 1 = 53 ↔ _
    omega
  unfold pack bitsOf
  dsimp only
  rw [hbias]
  by_cases hinf : 971 < e
  · rw [if_pos (htop.mpr hinf), toNat_packedInfinity, Nat.min_eq_left (by omega)]
  rw [if_neg (mt htop.mp hinf), Nat.min_eq_right (by omega)]
  by_cases hnormal : 2 ^ 52 ≤ m
  · have hk : (BitVec.ofNat 11 (e + 1075).toNat).toNat = (e + 1075).toNat := by
      rw [BitVec.toNat_ofNat]
      omega
    have hf : (BitVec.ofNat 52 m).toNat = m - 2 ^ 52 := by
      rw [BitVec.toNat_ofNat]
      omega
    rw [if_pos (hlog.mpr hnormal), toNat_packComponents s hk hf]
    omega
  · have hf : (BitVec.ofNat 52 m).toNat = m := by
      rw [BitVec.toNat_ofNat]
      omega
    rw [if_neg (mt hlog.mp hnormal), toNat_packComponents s (k := 0) (by decide) hf]
    omega

end Pack

/-- Canonical parts keep their value in a word. -/
theorem value?_unpack_pack {u : UnpackedFloat} (hu : Canonical u) :
    value? (unpack Format.binary64 (pack Format.binary64 u)) = value? u := by
  cases u with
  | notANumber => rfl
  | infinity s => cases s <;> rfl
  | zero s => cases s <;> rfl
  | finite s m e hm =>
    have hfits : Fits m e := hu
    have hpack := value?_unpack_of_toNat (w := ⟨pack Format.binary64 (.finite s m e hm)⟩)
      hfits.toAligned (toNat_pack_finite s hm hfits.toAligned hfits.lt)
    exact hpack.trans (if_neg hfits.bitsOf_lt.ne)

theorem toRat?_ofBits (w : UInt64) :
    toRat? (Float.ofBits w) = value? (unpack Format.binary64 w.toBitVec) :=
  (toRat?_eq _).trans (value?_unpack_pack (canonical_unpack w))

/-! ### Negation -/

theorem value?_neg (u : UnpackedFloat) : value? u.neg = (value? u).map (- ·) := by
  cases u with
  | notANumber => rfl
  | infinity s => rfl
  | zero s => exact congrArg some neg_zero.symm
  | finite s m e hm =>
    cases s with
    | positive => rfl
    | negative => exact congrArg some (neg_neg _).symm

theorem canonical_neg {u : UnpackedFloat} (hu : Canonical u) : Canonical u.neg := by
  cases u <;> exact hu

theorem toRat?_neg (x : Float) : toRat? (-x) = (toRat? x).map (- ·) := by
  have hpack : toRat? (-x) = value? x.toModel.unpack.neg :=
    (toRat?_eq _).trans (value?_unpack_pack (canonical_neg (canonical_unpack x.toBits)))
  rw [hpack, value?_neg, ← toRat?_eq]

/-! ### Which numbers are doubles -/

/-- A number of 53 digits in the range of the exponents. -/
def IsDouble (q : Rat) : Prop :=
  ∃ (m : Nat) (e : Int), |q| = dyadic m e ∧ m < 2 ^ 53 ∧ -1074 ≤ e ∧ e ≤ 971

theorem isDouble_of_value? {u : UnpackedFloat} (hu : Canonical u) {q : Rat} (hq : value? u = some q) :
    IsDouble q := by
  cases u with
  | infinity s => cases hq
  | notANumber => cases hq
  | zero s =>
    obtain rfl : 0 = q := Option.some.inj hq
    exact ⟨0, 0, by rw [dyadic_zero, abs_zero], by norm_num, by norm_num, by norm_num⟩
  | finite s m e hm =>
    have hfits : Fits m e := hu
    obtain rfl := Option.some.inj hq
    exact ⟨m, e, abs_signed_dyadic s m e, hfits.lt, hfits.ge, hfits.exponent_le⟩

theorem isDouble_of_toRat? {x : Float} {q : Rat} (hx : toRat? x = some q) : IsDouble q :=
  isDouble_of_value? (canonical_unpack x.toBits) ((toRat?_eq x).symm.trans hx)

theorem IsDouble.abs_le {q : Rat} (h : IsDouble q) : |q| ≤ dyadic (2 ^ 53 - 1) 971 := by
  obtain ⟨m, e, hq, hm, -, he⟩ := h
  rw [hq]
  exact (dyadic_le_of_le (by omega) e).trans (dyadic_le_of_exponent_le _ he)

/-- A double is a whole number or less than `2 ^ 53`. -/
theorem IsDouble.whole_or_small {q : Rat} (h : IsDouble q) : (∃ n : Int, q = n) ∨ |q| < 2 ^ 53 := by
  obtain ⟨m, e, hq, hm, -, -⟩ := h
  rcases le_or_gt 0 e with he | he
  · obtain ⟨k, rfl⟩ := Int.eq_ofNat_of_zero_le he
    have habs : |q| = ((m * 2 ^ k : Int) : Rat) := by
      rw [hq, dyadic_eq, zpow_natCast]
      push_cast
      rfl
    rcases eq_or_eq_neg_of_abs_eq habs with hpos | hneg
    · exact .inl ⟨_, hpos⟩
    · exact .inl ⟨-(m * 2 ^ k), by rw [hneg, Int.cast_neg]⟩
  · right
    calc |q| = dyadic m e := hq
      _ < dyadic (2 ^ 53) e := dyadic_lt_of_lt hm e
      _ ≤ dyadic (2 ^ 53) 0 := dyadic_le_of_exponent_le _ he.le
      _ = 2 ^ 53 := by norm_num [dyadic_eq]

theorem isDouble_two_pow {k : Nat} (hk : k ≤ 971) : IsDouble (2 ^ k) := by
  refine ⟨1, k, ?_, by norm_num, by omega, by omega⟩
  rw [abs_of_nonneg (by positivity), dyadic_eq, zpow_natCast, Nat.cast_one, one_mul]

theorem isDouble_intCast {n : Int} (h : |n| ≤ 2 ^ 53) : IsDouble n := by
  have habs : |(n : Rat)| = (n.natAbs : Rat) := by rw [Nat.cast_natAbs, Int.cast_abs]
  rw [Int.abs_eq_natAbs] at h
  rcases (show n.natAbs ≤ 2 ^ 53 by omega).lt_or_eq with hlt | heq
  · exact ⟨n.natAbs, 0, by rw [habs, dyadic_eq, zpow_zero, mul_one], hlt, by norm_num, by norm_num⟩
  · refine ⟨2 ^ 52, 1, ?_, by norm_num, by norm_num, by norm_num⟩
    rw [habs, heq, dyadic_eq]
    norm_num

end Binary64
end LedStrip
