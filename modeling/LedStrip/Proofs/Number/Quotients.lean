import LedStrip.Proofs.Number.Nearest

/-!
# Quotients of doubles

The model of the core library divides significands with digits to spare (`divCore_spec`) and rounds
what it gets.  Whether that goes up or down, the result has its 53 digits at the exponent that was
aimed at (`aligned_of_floor`).  So a quotient is finite if the divisor is two or more
(`exists_toRat?_div`).
-/

namespace LedStrip
namespace Binary64

open Float.Model (Format UnpackedFloat totalExponent)
open Float.Model.UnpackedFloat

/-! ### Rounding up or down -/

theorem mantissa_shiftRight (em : ExtendedMantissa) (k : Nat) :
    (em >>> k).mantissa = em.mantissa / 2 ^ k := by
  show (k.repeat ExtendedMantissa.shiftRightOne em).mantissa = _
  induction k with
  | zero => rw [Nat.pow_zero, Nat.div_one]; rfl
  | succ k ih => rw [Nat.pow_succ, ← Nat.div_div_eq_div_mul, ← ih]; rfl

theorem mantissa_ofMantissaAndAccuracy (n : Nat) (acc : Accuracy) :
    (ExtendedMantissa.ofMantissaAndAccuracy n acc).mantissa = n := by
  cases acc with
  | exact => rfl
  | inexact o => cases o <;> rfl

theorem mantissa_le_roundedMantissa (em : ExtendedMantissa) :
    em.mantissa ≤ em.roundedMantissa := by
  obtain ⟨m, _ | _, _ | _⟩ := em
  · exact Nat.le_refl m
  · exact Nat.le_refl m
  · exact Nat.le_add_right m _
  · exact Nat.le_succ m

theorem roundedMantissa_le (em : ExtendedMantissa) : em.roundedMantissa ≤ em.mantissa + 1 := by
  obtain ⟨m, _ | _, _ | _⟩ := em
  · exact Nat.le_succ m
  · exact Nat.le_succ m
  · show m + m % 2 ≤ m + 1
    omega
  · exact Nat.le_refl _

/-- A significand that is cut to 53 digits, perhaps with one more in the last place. -/
theorem aligned_of_floor {n m : Nat} {t : Int} (ht : t ≤ target n t)
    (hle : n / 2 ^ (target n t - t).toNat ≤ m) (hge : m ≤ n / 2 ^ (target n t - t).toNat + 1) :
    Aligned m (target n t) where
  le := by
    refine hge.trans (Nat.div_lt_of_lt_mul (Nat.lt_log2_self.trans_le ?_))
    rw [← Nat.pow_add]
    exact Nat.pow_le_pow_right (by norm_num) (by unfold target; omega)
  ge := le_max_right _ _
  full := by
    rcases le_or_gt (n.log2 + t - 52) (-1074) with h | h
    · exact .inl (max_eq_right h)
    · right
      have hlog : 52 ≤ n.log2 := by unfold target at ht; omega
      have hn : n ≠ 0 := by
        rintro rfl
        exact absurd hlog (by decide)
      refine le_trans ((Nat.le_div_iff_mul_le (Nat.two_pow_pos _)).mpr ?_) hle
      rw [← Nat.pow_add]
      exact (Nat.pow_le_pow_right (by norm_num) (by unfold target; omega)).trans
        (Nat.log2_self_le hn)

/-- Whatever has been cut off before, rounding leaves an aligned significand. -/
theorem exists_toNat_pack_round (s : Sign) {n : Nat} {t : Int} (ht : t ≤ target n t)
    (acc : Accuracy) : ∃ m, Aligned m (target n t) ∧
      (pack Format.binary64 (roundWithAccuracy Format.binary64 s n t acc)).toNat =
        signBit s + bitsOf m (target n t) := by
  have hmantissa : (ExtendedMantissa.ofMantissaAndAccuracy n acc >>>
      (target n t - t).toNat).mantissa = n / 2 ^ (target n t - t).toNat := by
    rw [mantissa_shiftRight, mantissa_ofMantissaAndAccuracy]
  have haligned : Aligned (ExtendedMantissa.ofMantissaAndAccuracy n acc >>>
      (target n t - t).toNat).roundedMantissa (target n t) :=
    aligned_of_floor ht (hmantissa ▸ mantissa_le_roundedMantissa _)
      (hmantissa ▸ roundedMantissa_le _)
  have hexp : t + ((target n t - t).toNat : Int) = target n t := by omega
  obtain ⟨m, e, hsecond, hm, hlt, hbits⟩ := shiftToTargetExponent_aligned haligned
  refine ⟨_, haligned, ?_⟩
  rw [roundWithAccuracy_eq s (shiftToTargetExponent_eq n t acc) (by rw [hexp]; exact hsecond),
    ← hbits]
  exact toNat_pack_parts s hm hlt

/-! ### Division -/

/-- The digits of a quotient: enough of them, and not more than there are. -/
theorem divCore_spec {m m' : Nat} (hm : 0 < m) (hm' : 0 < m') (e e' : Int) :
    ∃ n t acc, divCore Format.binary64 m e m' e' = (n, t, acc) ∧ t ≤ target n t ∧
      dyadic n t * dyadic m' e' ≤ dyadic m e := by
  refine ⟨_, _, _, rfl, ?_, ?_⟩
  all_goals
    generalize ht : min (e - e') (Format.binary64.targetExponent
      (totalExponent m e - totalExponent m' e')) = t
    have hle : t ≤ e - e' := ht ▸ min_le_left _ _
    rw [Nat.shiftLeft_eq]
  · have htarget : t ≤ max (((m.log2 : Int) + e) - (m'.log2 + e') - 53) (-1074) := by
      have hbits : (Format.binary64.mantissaBits : Int) = 53 := rfl
      have hmin : Format.binary64.minExponent = -1074 := rfl
      have h := ht ▸ min_le_right (e - e') (Format.binary64.targetExponent
        (totalExponent m e - totalExponent m' e'))
      unfold Format.targetExponent totalExponent at h
      rw [hbits, hmin] at h
      omega
    rcases le_or_gt t (-1074) with hsmall | hlarge
    · exact hsmall.trans (le_max_right _ _)
    · have hdigits : 2 ^ 52 ≤ m * 2 ^ (e - e' - t).toNat / m' := by
        rw [Nat.le_div_iff_mul_le hm']
        calc 2 ^ 52 * m' ≤ 2 ^ 52 * 2 ^ (m'.log2 + 1) :=
              Nat.mul_le_mul_left _ Nat.lt_log2_self.le
          _ = 2 ^ (m'.log2 + 53) := by rw [← Nat.pow_add]; congr 1; omega
          _ ≤ 2 ^ (m.log2 + (e - e' - t).toNat) :=
              Nat.pow_le_pow_right (by norm_num) (by omega)
          _ = 2 ^ m.log2 * 2 ^ (e - e' - t).toNat := Nat.pow_add _ _ _
          _ ≤ m * 2 ^ (e - e' - t).toNat := Nat.mul_le_mul_right _ (Nat.log2_self_le hm.ne')
      have hlog := (Nat.le_log2 (by omega)).mpr hdigits
      unfold target
      omega
  · have hcut : m * 2 ^ (e - e' - t).toNat / m' * m' ≤ m * 2 ^ (e - e' - t).toNat :=
      Nat.div_mul_le_self _ _
    calc dyadic (m * 2 ^ (e - e' - t).toNat / m') t * dyadic m' e'
        = dyadic (m * 2 ^ (e - e' - t).toNat / m' * m') (t + e') := by
          rw [dyadic_eq, dyadic_eq, dyadic_eq, zpow_add₀ (by norm_num), Nat.cast_mul]
          ring
      _ ≤ dyadic (m * 2 ^ (e - e' - t).toNat) (t + e') := dyadic_le_of_le hcut _
      _ = dyadic m e := by
          rw [dyadic_mul_two_pow]
          congr 1
          omega

/-- What is at most a half of a double has room for rounding up. -/
theorem target_le_of_half {s : Sign} {m m' n : Nat} {e e' t : Int} {hm : 0 < m}
    (h : Canonical (.finite s m e hm)) (ht : t ≤ target n t) (hge : 2 ≤ dyadic m' e')
    (hle : dyadic n t * dyadic m' e' ≤ dyadic m e) : target n t ≤ 970 := by
  rcases Nat.eq_zero_or_pos n with rfl | hn
  · have hlog : Nat.log2 0 = 0 := rfl
    unfold target at ht ⊢
    omega
  have hfits : Fits m e := h
  have hdigits : (n.log2 : Int) + t + 1 < (53 : Nat) + 971 := by
    refine lt_of_two_zpow_lt ?_
    calc (2 : Rat) ^ ((n.log2 : Int) + t + 1) = 2 ^ ((n.log2 : Int) + t) * 2 :=
          zpow_add_one₀ (by norm_num) _
      _ ≤ dyadic n t * dyadic m' e' :=
          mul_le_mul (two_zpow_log2_le hn t) hge (by norm_num) (dyadic_nonneg n t)
      _ ≤ dyadic m e := hle
      _ < dyadic (2 ^ 53) e := dyadic_lt_of_lt hfits.lt e
      _ ≤ dyadic (2 ^ 53) 971 := dyadic_le_of_exponent_le _ hfits.exponent_le
      _ = 2 ^ (((53 : Nat) : Int) + 971) := dyadic_two_pow 53 971
  unfold target
  omega

/-- The quotient of finite parts has a value if the divisor is two or more. -/
theorem exists_value?_div {u u' : UnpackedFloat} (hu : Canonical u) (hu' : Canonical u') {p q : Rat}
    (hp : value? u = some p) (hq : value? u' = some q) (hge : 2 ≤ |q|) :
    ∃ r, value? (unpack Format.binary64
      (pack Format.binary64 (UnpackedFloat.div Format.binary64 u u'))) = some r := by
  cases u' with
  | infinity s' => cases hq
  | notANumber => cases hq
  | zero s' =>
    obtain rfl : 0 = q := Option.some.inj hq
    norm_num at hge
  | finite s' m' e' hm' =>
    cases u with
    | infinity s => cases hp
    | notANumber => cases hp
    | zero s => exact ⟨0, value?_unpack_pack (u := .zero (s / s')) trivial⟩
    | finite s m e hm =>
      obtain rfl := Option.some.inj hp
      obtain rfl := Option.some.inj hq
      rw [abs_signed_dyadic] at hge
      obtain ⟨n, t, acc, hcore, ht, hle⟩ := divCore_spec hm hm' e e'
      obtain ⟨k, hk, hpack⟩ := exists_toNat_pack_round (s / s') ht acc
      have htarget : target n t ≤ 970 := target_le_of_half hu ht hge hle
      have hfinite : bitsOf k (target n t) < 2047 * 2 ^ 52 :=
        bitsOf_lt_top hk.le (by omega) fun htop => by omega
      have hdiv : UnpackedFloat.div Format.binary64 (.finite s m e hm) (.finite s' m' e' hm') =
          roundWithAccuracy Format.binary64 (s / s') n t acc := by
        show (let (n, t, acc) := divCore Format.binary64 m e m' e'
          roundWithAccuracy Format.binary64 (s / s') n t acc) = _
        rw [hcore]
      refine ⟨signed (s / s') (dyadic k (target n t)), ?_⟩
      rw [hdiv]
      exact (value?_unpack_of_toNat (w := ⟨_⟩) hk hpack).trans (if_neg hfinite.ne)

/-- **The quotient of two doubles is finite** if the divisor is two or more. -/
theorem exists_toRat?_div {x y : Float} {p q : Rat} (hx : toRat? x = some p)
    (hy : toRat? y = some q) (hge : 2 ≤ |q|) : ∃ r, toRat? (x / y) = some r := by
  obtain ⟨r, hr⟩ := exists_value?_div (canonical_unpack x.toBits) (canonical_unpack y.toBits)
    ((toRat?_eq x).symm.trans hx) ((toRat?_eq y).symm.trans hy) hge
  exact ⟨r, (toRat?_eq _).trans hr⟩

/-- A hundredth of a double is a double. -/
theorem isFinite_div_hundred (x : Float) (hx : Scalar.isFinite x = true) :
    Scalar.isFinite (x / Scalar.ofNat 100) = true := by
  obtain ⟨p, hp⟩ := Option.isSome_iff_exists.mp hx
  have hhundred : toRat? (Scalar.ofNat 100 : Float) = some ((100 : Int) : Rat) :=
    toRat?_ofRat_exact (isDouble_intCast (by norm_num))
  obtain ⟨r, hr⟩ := exists_toRat?_div hp hhundred (by norm_num)
  exact Option.isSome_iff_exists.mpr ⟨r, hr⟩

end Binary64
end LedStrip
