import Mathlib.Tactic.FieldSimp
import Mathlib.Tactic.Positivity
import LedStrip.Proofs.Number.Doubles
import LedStrip.Proofs.Number.Lawful

/-!
# Rounding to the nearest double

A number `n * 2 ^ e` becomes a double by `roundTo`: a significand for the exponent that leaves 53
digits (`nearest`, `target`), ties to the even one.  The conversion of integers does it by a division
(`toRat?_ofRat_intCast`) and the addition of the core library by shifts (`value?_normalize`).
Rounding keeps the order and whatever is a double already, so that doubles are lawful scalars.
-/

namespace LedStrip

/-! ### Quotients -/

/-- A quotient less than a half more is rounded down. -/
theorem roundDivEven_le_of_lt {n d k : Nat} (h : 2 * n < (2 * k + 1) * d) : roundDivEven n d ≤ k := by
  have hdiv := Nat.div_add_mod n d
  have hle : n / d ≤ k := by
    rw [← Nat.lt_succ_iff]
    exact Nat.div_lt_of_lt_mul (by nlinarith)
  unfold roundDivEven
  dsimp only
  rcases hle.lt_or_eq with hlt | rfl
  · split_ifs <;> omega
  · rw [if_pos (by nlinarith)]

theorem roundDivEven_le {n d k : Nat} (hd : 0 < d) (h : n ≤ k * d) : roundDivEven n d ≤ k :=
  roundDivEven_le_of_lt (by nlinarith)

theorem le_roundDivEven {n d k : Nat} (hd : 0 < d) (h : k * d ≤ n) : k ≤ roundDivEven n d := by
  have hle : k ≤ n / d := (Nat.le_div_iff_mul_le hd).mpr h
  unfold roundDivEven
  dsimp only
  split_ifs <;> omega

theorem roundDivEven_mono {n n' : Nat} (h : n ≤ n') (d : Nat) :
    roundDivEven n d ≤ roundDivEven n' d := by
  have hdiv := Nat.div_add_mod n d
  have hdiv' := Nat.div_add_mod n' d
  unfold roundDivEven
  dsimp only
  rcases (Nat.div_le_div_right (c := d) h).lt_or_eq with hlt | heq
  · split_ifs <;> omega
  · rw [heq] at hdiv ⊢
    split_ifs <;> omega

namespace Binary64

open Float.Model (Format UnpackedFloat totalExponent)
open Float.Model.UnpackedFloat

/-! ### The nearest significand -/

/-- The exponent at which `n * 2 ^ e` has 53 digits, or the smallest one. -/
def target (n : Nat) (e : Int) : Int := max (n.log2 + e - 52) (-1074)

/-- The significand for the exponent `t` that is nearest to `n * 2 ^ e`. -/
def nearestAt (n : Nat) (e t : Int) : Nat :=
  roundDivEven (n * 2 ^ (e - t).toNat) (2 ^ (t - e).toNat)

def nearest (n : Nat) (e : Int) : Nat := nearestAt n e (target n e)

section NearestAt

variable {n k : Nat} {e t : Int}

/-- The scale between values and the quotient that is rounded. -/
theorem unit_pos (e t : Int) : (0 : Rat) < 2 ^ (t - e).toNat / 2 ^ t :=
  div_pos (by positivity) (two_zpow_pos t)

theorem cast_num (n : Nat) (e t : Int) :
    ((n * 2 ^ (e - t).toNat : Nat) : Rat) = dyadic n e * (2 ^ (t - e).toNat / 2 ^ t) := by
  have htwo : (2 : Rat) ≠ 0 := by norm_num
  rw [dyadic_eq, Nat.cast_mul, mul_assoc]
  congr 1
  push_cast
  rw [← zpow_natCast, ← zpow_natCast, ← zpow_sub₀ htwo, ← zpow_add₀ htwo]
  congr 1
  omega

theorem cast_den (k : Nat) (e t : Int) :
    ((k * 2 ^ (t - e).toNat : Nat) : Rat) = dyadic k t * (2 ^ (t - e).toNat / 2 ^ t) := by
  have hne : (2 : Rat) ^ t ≠ 0 := (two_zpow_pos t).ne'
  rw [dyadic_eq]
  push_cast
  field_simp

theorem mul_den_le_num (h : dyadic k t ≤ dyadic n e) :
    k * 2 ^ (t - e).toNat ≤ n * 2 ^ (e - t).toNat := by
  rw [← Nat.cast_le (α := Rat), cast_num n, cast_den k]
  exact mul_le_mul_of_nonneg_right h (unit_pos e t).le

theorem le_nearestAt (h : dyadic k t ≤ dyadic n e) : k ≤ nearestAt n e t :=
  le_roundDivEven (Nat.two_pow_pos _) (mul_den_le_num h)

theorem nearestAt_le (h : dyadic n e ≤ dyadic k t) : nearestAt n e t ≤ k := by
  refine roundDivEven_le (Nat.two_pow_pos _) ?_
  rw [← Nat.cast_le (α := Rat), cast_num n, cast_den k]
  exact mul_le_mul_of_nonneg_right h (unit_pos e t).le

theorem nearestAt_le_of_lt (h : 2 * dyadic n e < dyadic (2 * k + 1) t) : nearestAt n e t ≤ k := by
  refine roundDivEven_le_of_lt ?_
  rw [← Nat.cast_lt (α := Rat), Nat.cast_mul, cast_num n, cast_den _ e t, ← mul_assoc]
  exact mul_lt_mul_of_pos_right (by exact_mod_cast h) (unit_pos e t)

theorem nearestAt_of_eq (h : dyadic n e = dyadic k t) : nearestAt n e t = k :=
  Nat.le_antisymm (nearestAt_le h.le) (le_nearestAt h.ge)

theorem nearestAt_mono {n' : Nat} (h : n ≤ n') (e t : Int) : nearestAt n e t ≤ nearestAt n' e t :=
  roundDivEven_mono (Nat.mul_le_mul_right _ h) _

end NearestAt

/-! ### Digits -/

theorem two_zpow_log2_le {n : Nat} (hn : 0 < n) (e : Int) : (2 : Rat) ^ (n.log2 + e) ≤ dyadic n e := by
  rw [← dyadic_two_pow]
  exact dyadic_le_of_le (Nat.log2_self_le hn.ne') e

theorem dyadic_lt_two_zpow (n : Nat) (e : Int) : dyadic n e < 2 ^ (n.log2 + e + 1) := by
  refine (dyadic_lt_of_lt Nat.lt_log2_self e).trans_eq ?_
  rw [dyadic_two_pow]
  congr 1
  push_cast
  ring

theorem lt_of_two_zpow_lt {a b : Int} (h : (2 : Rat) ^ a < 2 ^ b) : a < b :=
  (zpow_lt_zpow_iff_right₀ (by norm_num)).mp h

theorem log2_mul_two_pow {n : Nat} (hn : 0 < n) (k : Nat) : (n * 2 ^ k).log2 = n.log2 + k := by
  rw [Nat.log2_eq_iff (by positivity)]
  have hle := Nat.log2_self_le hn.ne'
  have hlt := Nat.lt_log2_self (n := n)
  rw [Nat.pow_add, show n.log2 + k + 1 = n.log2 + 1 + k by omega, Nat.pow_add]
  exact ⟨Nat.mul_le_mul_right _ hle, Nat.mul_lt_mul_of_pos_right hlt (Nat.two_pow_pos k)⟩

theorem nearest_zero (e : Int) : nearest 0 e = 0 :=
  nearestAt_of_eq (by rw [dyadic_zero, dyadic_zero])

theorem nearest_le (n : Nat) (e : Int) : nearest n e ≤ 2 ^ 53 := by
  refine nearestAt_le ((dyadic_lt_two_zpow n e).le.trans ?_)
  rw [dyadic_two_pow]
  exact zpow_le_zpow_right₀ (by norm_num) (by unfold target; omega)

theorem aligned_nearest {n : Nat} (hn : 0 < n) (e : Int) : Aligned (nearest n e) (target n e) where
  le := nearest_le n e
  ge := le_max_right _ _
  full := by
    rcases le_or_gt (n.log2 + e - 52) (-1074) with h | h
    · exact .inl (max_eq_right h)
    · right
      refine le_nearestAt (le_trans ?_ (two_zpow_log2_le hn e))
      rw [dyadic_two_pow]
      exact zpow_le_zpow_right₀ (by norm_num) (by unfold target; omega)

/-- Rounding up to a power of two takes the next exponent. -/
theorem target_aligned {m : Nat} {e : Int} (h : Aligned m e) :
    target m e = if m = 2 ^ 53 then e + 1 else e := by
  have hge := h.ge
  unfold target
  split
  · next hm =>
    rw [hm, Nat.log2_two_pow]
    omega
  · next hm =>
    have hle := h.le
    rcases Nat.eq_zero_or_pos m with rfl | hpos
    · obtain rfl : e = -1074 := h.full.resolve_right (by norm_num)
      rfl
    · have hlt := (Nat.log2_lt hpos.ne').mpr (show m < 2 ^ 53 by omega)
      rcases h.full with rfl | hfull
      · omega
      · have hle' := (Nat.le_log2 hpos.ne').mpr hfull
        omega

/-! ### Rounding by shifts -/

/-- What shifts leave of a significand: its digits, whether those that are dropped are a half or more,
and whether they are something other than nothing and a half. -/
theorem shiftRight_exact (m k : Nat) :
    ExtendedMantissa.ofMantissaAndAccuracy m .exact >>> k =
      ⟨m / 2 ^ k, decide (2 ^ k ≤ 2 * (m % 2 ^ k)),
        decide (m % 2 ^ k ≠ 0 ∧ 2 * (m % 2 ^ k) ≠ 2 ^ k)⟩ := by
  show k.repeat ExtendedMantissa.shiftRightOne ⟨m, false, false⟩ = _
  induction k with
  | zero => simp [Nat.repeat, Nat.mod_one]
  | succ k ih =>
    have hmod : m % 2 ^ (k + 1) = m % 2 ^ k + 2 ^ k * (m / 2 ^ k % 2) := Nat.mod_pow_succ
    have hlt : m % 2 ^ k < 2 ^ k := Nat.mod_lt m (Nat.two_pow_pos k)
    have hdiv : m / 2 ^ (k + 1) = m / 2 ^ k / 2 := by rw [Nat.pow_succ, Nat.div_div_eq_div_mul]
    rw [Nat.repeat, ih, ExtendedMantissa.shiftRightOne, hdiv, hmod, Nat.pow_succ]
    clear hmod hdiv ih
    generalize 2 ^ k = p at hlt ⊢
    generalize m % p = r at hlt ⊢
    rw [ExtendedMantissa.mk.injEq, ← Bool.decide_or, decide_eq_decide]
    refine ⟨rfl, ?_, ?_⟩
    · rcases Nat.mod_two_eq_zero_or_one (m / p) with h | h <;> simp [h] <;> omega
    · rcases Nat.mod_two_eq_zero_or_one (m / p) with h | h <;> rw [h] <;> omega

theorem roundedMantissa_shiftRight (m k : Nat) :
    (ExtendedMantissa.ofMantissaAndAccuracy m .exact >>> k).roundedMantissa =
      roundDivEven m (2 ^ k) := by
  rw [shiftRight_exact]
  unfold roundDivEven ExtendedMantissa.roundedMantissa
  dsimp only
  generalize 2 ^ k = p
  rcases lt_trichotomy (2 * (m % p)) p with h | h | h
  · rw [if_pos h, decide_eq_false (not_le.mpr h)]
    by_cases h0 : m % p ≠ 0 ∧ 2 * (m % p) ≠ p
    · rw [decide_eq_true h0]
      rfl
    · rw [decide_eq_false h0]
      rfl
  · rw [if_neg h.not_lt, if_neg h.not_gt, decide_eq_true h.ge, decide_eq_false (fun h' => h'.2 h)]
    show m / p + m / p % 2 = _
    split_ifs <;> omega
  · rw [if_neg (by omega), if_pos h, decide_eq_true h.le, decide_eq_true (by omega)]
    rfl

theorem targetExponent_eq (n : Nat) (e : Int) :
    Format.binary64.targetExponent (totalExponent n e) = target n e := by
  have hbits : (Format.binary64.mantissaBits : Int) = 53 := rfl
  have hmin : Format.binary64.minExponent = -1074 := rfl
  unfold Format.targetExponent totalExponent target
  rw [hbits, hmin]
  omega

theorem shiftToTargetExponent_eq (m : Nat) (e : Int) (acc : Accuracy) :
    shiftToTargetExponent Format.binary64 m e acc =
      (ExtendedMantissa.ofMantissaAndAccuracy m acc >>> (target m e - e).toNat,
        e + (target m e - e).toNat) := by
  unfold shiftToTargetExponent shiftToExponent
  rw [targetExponent_eq]

/-- A significand too long by one digit loses it, and the word stays the same. -/
theorem shiftToTargetExponent_aligned {m : Nat} {e : Int} (h : Aligned m e) :
    ∃ m' e', shiftToTargetExponent Format.binary64 m e .exact = (⟨m', false, false⟩, e') ∧
      Aligned m' e' ∧ m' < 2 ^ 53 ∧ bitsOf m' e' = bitsOf m e := by
  have hge := h.ge
  rw [shiftToTargetExponent_eq, target_aligned h]
  split
  · next hm =>
    subst hm
    refine ⟨2 ^ 52, e + 1, ?_, ⟨by norm_num, by omega, .inr le_rfl⟩, by norm_num, ?_⟩
    · rw [show (e + 1 - e).toNat = 1 by omega, shiftRight_exact]
      rfl
    · unfold bitsOf
      omega
  · next hm =>
    refine ⟨m, e, ?_, h, lt_of_le_of_ne h.le hm, rfl⟩
    rw [sub_self, shiftRight_exact]
    simp [Nat.mod_one]

/-- The two shifts of a rounding: one that drops digits, one for what rounding up has added. -/
theorem roundWithAccuracy_eq (s : Sign) {n m : Nat} {e e' t : Int} {acc : Accuracy}
    {left : ExtendedMantissa} (hfirst : shiftToTargetExponent Format.binary64 n e acc = (left, e'))
    (hsecond : shiftToTargetExponent Format.binary64 left.roundedMantissa e' .exact =
      (⟨m, false, false⟩, t)) :
    roundWithAccuracy Format.binary64 s n e acc =
      if hm : m = 0 then .zero s else .finite s m t (Nat.pos_of_ne_zero hm) := by
  unfold roundWithAccuracy
  rw [hfirst]
  dsimp only
  rw [hsecond]

theorem toNat_pack_parts (s : Sign) {m : Nat} {e : Int} (h : Aligned m e) (hlt : m < 2 ^ 53) :
    (pack Format.binary64 (if hm : m = 0 then .zero s
      else .finite s m e (Nat.pos_of_ne_zero hm))).toNat = signBit s + bitsOf m e := by
  by_cases hm : m = 0
  · subst hm
    obtain rfl : e = -1074 := h.full.resolve_right (by norm_num)
    rw [dif_pos rfl]
    exact toNat_packedZero s
  · rw [dif_neg hm, toNat_pack_finite s _ h hlt]

/-- Parts that are rounded by shifts have the nearest significand. -/
theorem toNat_pack_round (s : Sign) {n : Nat} (hn : 0 < n) (e : Int) :
    (pack Format.binary64 (UnpackedFloat.round Format.binary64 s n e)).toNat =
      signBit s + bitsOf (nearest n e) (target n e) := by
  -- the digits that are added and those that are dropped lead to the same exponent
  have htarget :
      target (n <<< (e - target n e).toNat) (e - (e - target n e).toNat) = target n e := by
    rw [Nat.shiftLeft_eq]
    unfold target
    rw [log2_mul_two_pow hn]
    omega
  have hshift : (target n e - (e - (e - target n e).toNat)).toNat = (target n e - e).toNat := by omega
  have hexp : e - ((e - target n e).toNat : Int) + ((target n e - e).toNat : Int) = target n e := by
    omega
  have hfirst : shiftToTargetExponent Format.binary64 (n <<< (e - target n e).toNat)
      (e - (e - target n e).toNat) .exact = (ExtendedMantissa.ofMantissaAndAccuracy
        (n <<< (e - target n e).toNat) .exact >>> (target n e - e).toNat, target n e) := by
    rw [shiftToTargetExponent_eq, htarget, hshift, hexp]
  have hrounded : (ExtendedMantissa.ofMantissaAndAccuracy (n <<< (e - target n e).toNat) .exact >>>
      (target n e - e).toNat).roundedMantissa = nearest n e := by
    rw [roundedMantissa_shiftRight, Nat.shiftLeft_eq]
    rfl
  obtain ⟨m, t, hsecond, haligned, hlt, hbits⟩ :=
    shiftToTargetExponent_aligned (aligned_nearest hn e)
  rw [← hrounded] at hsecond
  unfold UnpackedFloat.round decreaseExponent
  dsimp only
  rw [targetExponent_eq, roundWithAccuracy_eq s hfirst hsecond, ← hbits]
  exact toNat_pack_parts s haligned hlt

/-! ### Nearest doubles -/

/-- The value of the double nearest to `n * 2 ^ e`, unless that is infinite. -/
def roundTo (n e : Int) : Option Rat :=
  if n = 0 then some 0
  else if bitsOf (nearest n.natAbs e) (target n.natAbs e) = 2047 * 2 ^ 52 then none
  else some (signed (if n < 0 then .negative else .positive)
    (dyadic (nearest n.natAbs e) (target n.natAbs e)))

theorem value?_unpack_of_roundTo {w : UInt64} {n e : Int} (hn : n ≠ 0)
    (hw : w.toNat = signBit (if n < 0 then .negative else .positive) +
      bitsOf (nearest n.natAbs e) (target n.natAbs e)) :
    value? (unpack Format.binary64 w.toBitVec) = roundTo n e := by
  rw [value?_unpack_of_toNat (aligned_nearest (Int.natAbs_pos.mpr hn) e) hw, roundTo, if_neg hn]

theorem value?_normalize (n e : Int) (s : Sign) :
    value? (unpack Format.binary64
      (pack Format.binary64 (UnpackedFloat.normalize Format.binary64 n e s))) = roundTo n e := by
  unfold UnpackedFloat.normalize
  rcases lt_trichotomy n 0 with h | h | h
  · rw [Int.compare_eq_lt.mpr h]
    refine value?_unpack_of_roundTo (w := ⟨_⟩) h.ne ?_
    rw [if_pos h, show n.natAbs = (-n).toNat by omega]
    exact toNat_pack_round .negative (by omega) e
  · rw [Int.compare_eq_eq.mpr h, roundTo, if_pos h]
    exact value?_unpack_pack (u := .zero s) trivial
  · rw [Int.compare_eq_gt.mpr h]
    refine value?_unpack_of_roundTo (w := ⟨_⟩) h.ne' ?_
    rw [if_neg h.le.not_gt, show n.natAbs = n.toNat by omega]
    exact toNat_pack_round .positive (by omega) e

/-- An integer is rounded as `n * 2 ^ 0`. -/
theorem magnitudeBits_one {n : Nat} (hn : 0 < n) :
    magnitudeBits n 1 = bitsOf (nearest n 0) (target n 0) := by
  have haligned := aligned_nearest hn 0
  have htarget : target n 0 = (n.log2 : Int) - 52 := by unfold target; omega
  have hle := haligned.le
  have hge := haligned.ge
  have hfull : 2 ^ 52 ≤ nearest n 0 := haligned.full.resolve_left (by omega)
  unfold magnitudeBits
  extract_lets at_ low e' e m
  have hat (t : Int) : at_ t = (n * 2 ^ (0 - t).toNat, 2 ^ (t - 0).toNat) := by
    rcases le_or_gt 0 t with h | h
    · refine (if_pos h).trans ?_
      simp [Int.toNat_of_nonpos (show -t ≤ 0 by omega)]
    · refine (if_neg h.not_ge).trans ?_
      simp [Int.toNat_of_nonpos h.le]
  have hlow : low = (n.log2 : Int) - 53 := by
    have hlog : Nat.log2 1 = 0 := by decide
    show (n.log2 : Int) - (Nat.log2 1 : Nat) - 53 = _
    rw [hlog]
    omega
  have he' : e' = (n.log2 : Int) - 52 := by
    refine (if_pos ?_).trans (by omega)
    rw [hat, Nat.le_div_iff_mul_le (Nat.two_pow_pos _)]
    refine mul_den_le_num (le_trans (le_of_eq ?_) (two_zpow_log2_le hn 0))
    rw [dyadic_two_pow, hlow]
    congr 1
    omega
  have he : e = target n 0 := by
    show max e' (-1074) = _
    omega
  have hm : m = nearest n 0 := by
    show roundDivEven (at_ e).1 (at_ e).2 = _
    rw [hat, he]
    rfl
  rw [hm, he, bitsOf]
  clear hm he he' hlow hat haligned htarget
  clear_value m e e' low at_
  generalize nearest n 0 = k at hle hfull ⊢
  generalize target n 0 = t at hge ⊢
  by_cases hcarry : k = 2 ^ 53
  · rw [if_pos hcarry]
    dsimp only
    rw [if_neg (by norm_num)]
    split_ifs <;> omega
  · rw [if_neg hcarry]
    dsimp only
    rw [if_neg (by omega)]
    split_ifs <;> omega

theorem toRat?_ofRat_intCast (n : Int) : toRat? (ofRat (n : Rat)) = roundTo n 0 := by
  unfold ofRat
  rw [Rat.num_intCast, Rat.den_intCast]
  by_cases h : n = 0
  · rw [if_pos h, toRat?_ofBits, roundTo, if_pos h]
    rfl
  · have hle : bitsOf (nearest n.natAbs 0) (target n.natAbs 0) ≤ 2047 * 2 ^ 52 :=
      Nat.min_le_left _ _
    rw [if_neg h, toRat?_ofBits]
    refine value?_unpack_of_roundTo h ?_
    rw [magnitudeBits_one (Int.natAbs_pos.mpr h)]
    split
    · rw [UInt64.toNat_ofNat', signBit]
      omega
    · rw [UInt64.toNat_ofNat', signBit]
      omega

/-! ### Laws of rounding -/

theorem dyadic_natAbs (n e : Int) : dyadic n.natAbs e = |(n : Rat) * 2 ^ e| := by
  rw [dyadic_eq, Nat.cast_natAbs, Int.cast_abs, abs_mul, abs_of_pos (two_zpow_pos e)]

/-- The sign of an integer before its magnitude. -/
theorem signed_natAbs (n e : Int) :
    signed (if n < 0 then .negative else .positive) (dyadic n.natAbs e) = n * 2 ^ e := by
  rw [dyadic_eq, Nat.cast_natAbs]
  split
  · next h => rw [abs_of_neg h, signed, Int.cast_neg, neg_mul, neg_neg]
  · next h => rw [abs_of_nonneg (not_lt.mp h), signed]

/-- What is a double already is not rounded. -/
theorem roundTo_exact {n e : Int} (h : IsDouble (n * 2 ^ e)) :
    roundTo n e = some ((n : Rat) * 2 ^ e) := by
  by_cases h0 : n = 0
  · rw [roundTo, if_pos h0, h0, Int.cast_zero, zero_mul]
  obtain ⟨m, t, hvalue, hm, ht, ht'⟩ := h
  rw [← dyadic_natAbs] at hvalue
  have hdigits : (n.natAbs.log2 : Int) + e < (53 : Nat) + t := by
    refine lt_of_two_zpow_lt ((two_zpow_log2_le (Int.natAbs_pos.mpr h0) e).trans_lt ?_)
    rw [hvalue, ← dyadic_two_pow]
    exact dyadic_lt_of_lt hm t
  have htarget : target n.natAbs e ≤ t := by unfold target; omega
  have hscaled : dyadic n.natAbs e =
      dyadic (m * 2 ^ (t - target n.natAbs e).toNat) (target n.natAbs e) := by
    rw [dyadic_mul_two_pow, hvalue]
    congr 1
    omega
  have hnearest : nearest n.natAbs e = m * 2 ^ (t - target n.natAbs e).toNat :=
    nearestAt_of_eq hscaled
  have hfinite : bitsOf (nearest n.natAbs e) (target n.natAbs e) < 2047 * 2 ^ 52 := by
    refine bitsOf_lt_top (nearest_le _ e) (htarget.trans ht') fun htop => ?_
    rw [hnearest, show (t - target n.natAbs e).toNat = 0 by omega]
    omega
  rw [roundTo, if_neg h0, if_neg hfinite.ne, hnearest, ← hscaled, signed_natAbs]

theorem eq_signed_of_roundTo {n e : Int} {q : Rat} (h : roundTo n e = some q) :
    q = signed (if n < 0 then .negative else .positive)
      (dyadic (nearest n.natAbs e) (target n.natAbs e)) := by
  unfold roundTo at h
  split at h
  · next h0 => rw [h0, Int.natAbs_zero, nearest_zero, signed_dyadic_zero, Option.some.inj h]
  · split at h
    · cases h
    · exact (Option.some.inj h).symm

theorem dyadic_nearest_mono {n n' : Nat} (h : n ≤ n') (e : Int) :
    dyadic (nearest n e) (target n e) ≤ dyadic (nearest n' e) (target n' e) := by
  rcases Nat.eq_zero_or_pos n with rfl | hn
  · rw [nearest_zero, dyadic_zero]
    exact dyadic_nonneg _ _
  have hlog : n.log2 ≤ n'.log2 := (Nat.le_log2 (by omega)).mpr ((Nat.log2_self_le hn.ne').trans h)
  have htarget : target n e ≤ target n' e := by unfold target; omega
  rcases htarget.lt_or_eq with hlt | heq
  · exact (dyadic_le_of_le (nearest_le n e) _).trans
      ((aligned_nearest (hn.trans_le h) e).dyadic_le (le_max_right _ _) hlt)
  · rw [nearest, nearest, ← heq]
    exact dyadic_le_of_le (nearestAt_mono h e _) _

/-- Rounding keeps the order. -/
theorem roundTo_mono {m n e : Int} {p q : Rat} (h : m ≤ n) (hp : roundTo m e = some p)
    (hq : roundTo n e = some q) : p ≤ q := by
  rw [eq_signed_of_roundTo hp, eq_signed_of_roundTo hq]
  split
  · split
    · exact neg_le_neg (dyadic_nearest_mono (by omega) e)
    · exact (neg_nonpos.mpr (dyadic_nonneg _ _)).trans (dyadic_nonneg _ _)
  · rw [if_neg (by omega)]
    exact dyadic_nearest_mono (by omega) e

/-- Less than a half of the last place above the largest double nothing is rounded to infinity. -/
theorem exists_roundTo {n e : Int} (h : 2 * |(n : Rat) * 2 ^ e| < dyadic (2 ^ 54 - 1) 971) :
    ∃ q, roundTo n e = some q := by
  by_cases h0 : n = 0
  · exact ⟨0, if_pos h0⟩
  rw [← dyadic_natAbs] at h
  have hdigits : (n.natAbs.log2 : Int) + e + 1 < (54 : Nat) + 971 := by
    refine lt_of_two_zpow_lt ?_
    calc (2 : Rat) ^ ((n.natAbs.log2 : Int) + e + 1) = 2 * 2 ^ ((n.natAbs.log2 : Int) + e) := by
          rw [zpow_add_one₀ (by norm_num), mul_comm]
      _ ≤ 2 * dyadic n.natAbs e := by
          have hlow := two_zpow_log2_le (Int.natAbs_pos.mpr h0) e
          linarith
      _ < dyadic (2 ^ 54 - 1) 971 := h
      _ ≤ dyadic (2 ^ 54) 971 := dyadic_le_of_le (by norm_num) _
      _ = 2 ^ (((54 : Nat) : Int) + 971) := dyadic_two_pow 54 971
  have hfinite : bitsOf (nearest n.natAbs e) (target n.natAbs e) < 2047 * 2 ^ 52 := by
    refine bitsOf_lt_top (nearest_le _ e) (by unfold target; omega) fun htop => ?_
    rw [nearest, htop, ← Nat.le_sub_one_iff_lt (by norm_num)]
    exact nearestAt_le_of_lt h
  exact ⟨_, (if_neg h0).trans (if_neg hfinite.ne)⟩

/-- Nothing is rounded below `2 ^ 53`. -/
theorem le_of_roundTo {n e : Int} {q : Rat} (h : 2 ^ 53 ≤ (n : Rat) * 2 ^ e)
    (hq : roundTo n e = some q) : 2 ^ 53 ≤ q := by
  have hpos : 0 < n := by
    by_contra hneg
    have hnonpos : (n : Rat) * 2 ^ e ≤ 0 :=
      mul_nonpos_of_nonpos_of_nonneg (by exact_mod_cast not_lt.mp hneg) (two_zpow_pos e).le
    linarith
  have hdigits : 53 < (n.natAbs.log2 : Int) + e + 1 := by
    refine lt_of_two_zpow_lt (lt_of_le_of_lt ?_ (dyadic_lt_two_zpow n.natAbs e))
    rw [dyadic_natAbs]
    exact le_trans (by exact_mod_cast h) (le_abs_self _)
  have haligned := aligned_nearest (Int.natAbs_pos.mpr hpos.ne') e
  rw [eq_signed_of_roundTo hq, if_neg hpos.le.not_gt]
  calc (2 : Rat) ^ 53 = dyadic (2 ^ 52) 1 := by norm_num [dyadic_eq]
    _ ≤ dyadic (2 ^ 52) (target n.natAbs e) :=
      dyadic_le_of_exponent_le _ (by unfold target; omega)
    _ ≤ dyadic (nearest n.natAbs e) (target n.natAbs e) :=
      dyadic_le_of_le (haligned.full.resolve_left (by unfold target; omega)) _

/-! ### Integers -/

theorem toRat?_ofRat_exact {n : Int} (h : IsDouble n) : toRat? (ofRat (n : Rat)) = some (n : Rat) := by
  have hscale : (n : Rat) * 2 ^ (0 : Int) = n := by rw [zpow_zero, mul_one]
  rw [toRat?_ofRat_intCast, roundTo_exact (by rw [hscale]; exact h), hscale]

theorem exists_ofRat {n : Int} (h : |n| ≤ 2 ^ 64) : ∃ q, toRat? (ofRat (n : Rat)) = some q := by
  have hle : |(n : Rat)| ≤ 2 ^ 64 := by exact_mod_cast h
  rw [toRat?_ofRat_intCast]
  refine exists_roundTo ?_
  rw [zpow_zero, mul_one]
  calc 2 * |(n : Rat)| ≤ 2 * 2 ^ 64 := by linarith
    _ < dyadic (2 ^ 54 - 1) 12 := by norm_num [dyadic_eq]
    _ ≤ dyadic (2 ^ 54 - 1) 971 := dyadic_le_of_exponent_le _ (by norm_num)

/-- Rounding a double to an integer gives a double, if it keeps integers and keeps numbers small. -/
theorem toRat?_ofRat_onMagnitude {f : Rat → Int} (hint : ∀ n : Int, f n = n)
    (hsmall : ∀ q, |q| < 2 ^ 53 → |f q| ≤ 2 ^ 53) {x : Float} {q : Rat} (hx : toRat? x = some q) :
    toRat? (ofRat (f q : Rat)) = some (f q : Rat) := by
  have hdouble := isDouble_of_toRat? hx
  rcases hdouble.whole_or_small with ⟨n, rfl⟩ | h
  · rw [hint]
    exact toRat?_ofRat_exact hdouble
  · exact toRat?_ofRat_exact (isDouble_intCast (hsmall q h))

theorem abs_truncate_le {q : Rat} (h : |q| < 2 ^ 53) : |truncate q| ≤ 2 ^ 53 := by
  have hnonneg : ∀ {q : Rat}, 0 ≤ q → q < 2 ^ 53 → 0 ≤ truncate q ∧ truncate q ≤ 2 ^ 53 :=
    fun {q} hq hlt => ⟨le_truncate le_rfl (by exact_mod_cast hq),
      truncate_le hq (by push_cast; exact hlt.le)⟩
  rw [abs_lt] at h
  rcases le_total 0 q with hq | hq
  · obtain ⟨h0, hle⟩ := hnonneg hq h.2
    rw [abs_of_nonneg h0]
    exact hle
  · obtain ⟨h0, hle⟩ := hnonneg (neg_nonneg.mpr hq) (by linarith)
    rw [truncate_neg] at h0 hle
    rw [abs_of_nonpos (by omega)]
    exact hle

theorem abs_roundHalfAway_le {q : Rat} (h : |q| < 2 ^ 53) : |roundHalfAway q| ≤ 2 ^ 53 := by
  rw [abs_lt] at h
  rw [abs_le]
  exact ⟨le_roundHalfAway (by push_cast; linarith), roundHalfAway_le (by push_cast; linarith)⟩

/-! ### Sums -/

theorem signed_dyadic (s : Sign) (m : Nat) (e : Int) :
    signed s (dyadic m e) = (s.apply m : Rat) * 2 ^ e := by
  rw [dyadic_eq]
  cases s with
  | positive => simp [signed, Sign.apply]
  | negative => simp [signed, Sign.apply]

/-- The digits that a smaller exponent adds do not change the value. -/
theorem signed_shiftLeft (s : Sign) (m : Nat) {e t : Int} (h : t ≤ e) :
    (s.apply (m <<< (e - t).toNat : Nat) : Rat) * 2 ^ t = signed s (dyadic m e) := by
  rw [← signed_dyadic, Nat.shiftLeft_eq, dyadic_mul_two_pow]
  congr 2
  omega

theorem roundTo_of_canonical (s : Sign) {m : Nat} {e : Int} (hm : 0 < m)
    (h : Canonical (.finite s m e hm)) : roundTo (s.apply m) e = some (signed s (dyadic m e)) := by
  rw [signed_dyadic]
  refine roundTo_exact ?_
  rw [← signed_dyadic]
  exact isDouble_of_value? h rfl

/-- The parts of a sum are those of the exact sum, rounded. -/
theorem value?_add {u u' : UnpackedFloat} (hu : Canonical u) (hu' : Canonical u') {p q : Rat}
    (hp : value? u = some p) (hq : value? u' = some q) :
    ∃ n e : Int, p + q = (n : Rat) * 2 ^ e ∧ value? (unpack Format.binary64
      (pack Format.binary64 (UnpackedFloat.add Format.binary64 u u'))) = roundTo n e := by
  cases u with
  | infinity s => cases hp
  | notANumber => cases hp
  | zero s =>
    obtain rfl : 0 = p := Option.some.inj hp
    cases u' with
    | infinity s' => cases hq
    | notANumber => cases hq
    | zero s' =>
      obtain rfl : 0 = q := Option.some.inj hq
      refine ⟨0, 0, by norm_num, ?_⟩
      cases s <;> cases s' <;> rfl
    | finite s' m' e' hm' =>
      obtain rfl := Option.some.inj hq
      refine ⟨s'.apply m', e', by rw [zero_add, signed_dyadic], ?_⟩
      exact (value?_unpack_pack hu').trans (roundTo_of_canonical s' hm' hu').symm
  | finite s m e hm =>
    obtain rfl := Option.some.inj hp
    cases u' with
    | infinity s' => cases hq
    | notANumber => cases hq
    | zero s' =>
      obtain rfl : 0 = q := Option.some.inj hq
      refine ⟨s.apply m, e, by rw [add_zero, signed_dyadic], ?_⟩
      exact (value?_unpack_pack hu).trans (roundTo_of_canonical s hm hu).symm
    | finite s' m' e' hm' =>
      obtain rfl := Option.some.inj hq
      refine ⟨s.apply (m <<< (e - min e e').toNat : Nat) +
        s'.apply (m' <<< (e' - min e e').toNat : Nat), min e e', ?_, value?_normalize _ _ _⟩
      rw [Int.cast_add, add_mul, signed_shiftLeft s m (min_le_left e e'),
        signed_shiftLeft s' m' (min_le_right e e')]

section Add

variable {x y : Float} {p q : Rat} (hx : toRat? x = some p) (hy : toRat? y = some q)

include hx hy

/-- The sum of two doubles is the double nearest to the exact sum. -/
theorem toRat?_add : ∃ n e : Int, p + q = (n : Rat) * 2 ^ e ∧ toRat? (x + y) = roundTo n e := by
  obtain ⟨n, e, hsum, hround⟩ := value?_add (canonical_unpack x.toBits) (canonical_unpack y.toBits)
    ((toRat?_eq x).symm.trans hx) ((toRat?_eq y).symm.trans hy)
  exact ⟨n, e, hsum, (toRat?_eq _).trans hround⟩

theorem toRat?_add_exact (h : IsDouble (p + q)) : toRat? (x + y) = some (p + q) := by
  obtain ⟨n, e, hsum, hround⟩ := toRat?_add hx hy
  rw [hsum] at h ⊢
  exact hround.trans (roundTo_exact h)

theorem le_toRat?_add (hq : |q| ≤ 2 ^ 53) (h : 2 ^ 53 ≤ p + q) :
    ∃ r, toRat? (x + y) = some r ∧ 2 ^ 53 ≤ r := by
  obtain ⟨n, e, hsum, hround⟩ := toRat?_add hx hy
  obtain ⟨r, hr⟩ : ∃ r, roundTo n e = some r := by
    refine exists_roundTo ?_
    have hp := (isDouble_of_toRat? hx).abs_le
    have hlarge : (2 : Rat) ^ (55 : Int) ≤ 2 ^ (971 : Int) :=
      zpow_le_zpow_right₀ (by norm_num) (by norm_num)
    rw [dyadic_eq] at hp ⊢
    rw [← hsum]
    generalize (2 : Rat) ^ (971 : Int) = top at hp hlarge ⊢
    calc 2 * |p + q| ≤ 2 * (|p| + |q|) := by linarith [abs_add_le p q]
      _ < ((2 ^ 54 - 1 : Nat) : Rat) * top := by
        norm_num at hp hq hlarge ⊢
        linarith
  exact ⟨r, hround.trans hr, le_of_roundTo (hsum ▸ h) hr⟩

end Add

end Binary64

/-! ### The laws -/

open Binary64

instance : LawfulScalar Float where
  lt_iff hx hy := lt_iff_of_toRat? hx hy
  le_iff hx hy := le_iff_of_toRat? hx hy
  beq_iff hx hy := beq_iff_of_toRat? hx hy
  toRat?_neg {x p} hx := (toRat?_neg x).trans (congrArg (Option.map (- ·)) hx)
  toRat?_ofInt h := toRat?_ofRat_exact (isDouble_intCast h)
  toRat?_ofInt_two_pow {k} hk := by
    have hcast : ((2 ^ k : Int) : Rat) = 2 ^ k := by push_cast; rfl
    exact (toRat?_ofRat_exact (hcast ▸ isDouble_two_pow (by omega))).trans (congrArg some hcast)
  finite_ofInt h := exists_ofRat h
  ofInt_mono {m n p q} h hp hq :=
    roundTo_mono h ((toRat?_ofRat_intCast m).symm.trans hp) ((toRat?_ofRat_intCast n).symm.trans hq)
  toRat?_truncate hx := toRat?_ofRat_onMagnitude truncate_ofInt (fun _ => abs_truncate_le) hx

instance : LawfulSteps Float where
  toRat?_add_ofInt {x m n} hx hn h := by
    have hcast : (m : Rat) + n = ((m + n : Int) : Rat) := (Int.cast_add m n).symm
    refine (toRat?_add_exact hx (toRat?_ofRat_exact (isDouble_intCast hn)) ?_).trans ?_
    · rw [hcast]
      exact isDouble_intCast h
    · rw [hcast]
  le_add_ofInt hx hn h :=
    le_toRat?_add hx (toRat?_ofRat_exact (isDouble_intCast hn)) (by exact_mod_cast hn) h
  toRat?_roundHalfAway hx :=
    toRat?_ofRat_onMagnitude roundHalfAway_ofInt (fun _ => abs_roundHalfAway_le) hx

end LedStrip
