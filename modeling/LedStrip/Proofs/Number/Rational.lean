import Mathlib.Tactic.FieldSimp
import Mathlib.Tactic.Ring
import LedStrip.Proofs.Number.Lawful

/-!
# Rationals as scalars

Among exact numbers the functions of scalars are those of the ordered field: `clamp` is a maximum
over a minimum, `rem` is what a truncated quotient leaves and `floorMod` what a floor leaves.
-/

namespace LedStrip
namespace Scalar

theorem ofNat_rat (n : Nat) : (ofNat n : Rat) = ((n : Int) : Rat) := rfl

theorem trunc_rat (q : Rat) : trunc q = (truncate q : Rat) :=
  Option.some.inj (toRat?_trunc (R := Rat) rfl)

theorem round_rat (q : Rat) : round q = (roundHalfAway q : Rat) :=
  Option.some.inj (toRat?_round (R := Rat) rfl)

theorem abs_rat (q : Rat) : abs q = |q| := by
  have hnegative : negative q = decide (q < 0) := rfl
  unfold abs
  by_cases h : q < 0
  · rw [hnegative, if_pos (decide_eq_true h), abs_of_neg h]
  · rw [hnegative, if_neg (by simpa using h), abs_of_nonneg (not_lt.mp h)]

theorem toNatIn_intCast (hi : Nat) (n : Int) :
    toNatIn hi (n : Rat) = (max 0 (min (hi : Int) n)).toNat := by
  show (max 0 (min (hi : Int) (truncate (n : Rat)))).toNat = _
  rw [truncate_ofInt]

theorem toWord_intCast (n : Int) : toWord (n : Rat) = (max 0 (min (2 ^ 64 - 1) n)).toNat :=
  toNatIn_intCast _ n

/-! ### Clamps -/

theorem clamp_rat {lo hi : Rat} (h : lo ≤ hi) (x : Rat) : clamp lo hi x = max lo (min hi x) := by
  unfold clamp
  split
  · next hlo => rw [min_eq_right (hlo.le.trans h), max_eq_left hlo.le]
  · next hlo =>
    split
    · next hhi => rw [min_eq_left hhi.le, max_eq_right h]
    · next hhi => rw [min_eq_right (not_lt.mp hhi), max_eq_right (not_lt.mp hlo)]

theorem clamp_intCast {lo hi n : Int} (h : lo ≤ hi) :
    clamp (lo : Rat) (hi : Rat) (n : Rat) = ((max lo (min hi n) : Int) : Rat) := by
  rw [clamp_rat (Int.cast_le.mpr h), Int.cast_max, Int.cast_min]

/-! ### Remainders -/

variable {x y : Rat}

theorem rem_rat (hy : y ≠ 0) (x : Rat) : rem x y = x - y * truncate (x / y) := by
  have hrem : rem x y = if y = 0 then undefined else
      if negative x && x - y * truncate (x / y) == ofInt 0 then -(x - y * truncate (x / y))
      else x - y * truncate (x / y) := rfl
  rw [hrem, if_neg hy]
  split
  · next h =>
    -- the remainder is zero, which has one sign only
    have hzero : x - y * truncate (x / y) = 0 := by
      rw [Bool.and_eq_true] at h
      exact eq_of_beq h.2
    rw [hzero, neg_zero]
  · rfl

theorem rem_rat_of_nonneg (hx : 0 ≤ x) (hy : 0 < y) : rem x y = x - y * ⌊x / y⌋ := by
  rw [rem_rat hy.ne', truncate_of_nonneg (div_nonneg hx hy.le)]

/-- Any remainder in the range is the remainder. -/
theorem sub_mul_floor_eq {k : Int} (hy : 0 < y) (h0 : 0 ≤ x - y * k) (hlt : x - y * k < y) :
    x - y * ⌊x / y⌋ = x - y * k := by
  have hfloor : ⌊x / y⌋ = k := by
    rw [Int.floor_eq_iff, le_div_iff₀ hy, div_lt_iff₀ hy]
    constructor <;> linarith
  rw [hfloor]

/-- Floors do not see multiples of the divisor. -/
theorem sub_mul_floor_add (hy : 0 < y) (x : Rat) (n : Int) :
    x + y * n - y * ⌊(x + y * n) / y⌋ = x - y * ⌊x / y⌋ := by
  have hdiv : (x + y * n) / y = x / y + n := by field_simp
  rw [hdiv, Int.floor_add_intCast]
  push_cast
  ring

theorem sub_mul_floor_mem (hy : 0 < y) (x : Rat) :
    0 ≤ x - y * ⌊x / y⌋ ∧ x - y * ⌊x / y⌋ < y := by
  have hle := Int.floor_le (x / y)
  have hlt := Int.lt_floor_add_one (x / y)
  rw [le_div_iff₀ hy] at hle
  rw [div_lt_iff₀ hy] at hlt
  constructor <;> linarith

/-- A truncated remainder is less than the divisor on either side of zero. -/
theorem rem_rat_mem (hy : 0 < y) (x : Rat) : -y < rem x y ∧ rem x y < y := by
  rcases le_total 0 x with hx | hx
  · rw [rem_rat_of_nonneg hx hy]
    obtain ⟨h0, hlt⟩ := sub_mul_floor_mem hy x
    exact ⟨by linarith, hlt⟩
  · obtain ⟨h0, hlt⟩ := sub_mul_floor_mem hy (-x)
    rw [rem_rat hy.ne', ← neg_neg (x / y), ← neg_div, truncate_neg,
      truncate_of_nonneg (div_nonneg (neg_nonneg.mpr hx) hy.le)]
    push_cast
    constructor <;> linarith

theorem floorMod_rat (hy : 0 < y) (x : Rat) : floorMod x y = x - y * ⌊x / y⌋ := by
  obtain ⟨hlo, hhi⟩ := rem_rat_mem hy x
  have hzero : (ofInt 0 : Rat) = 0 := rfl
  rw [floorMod, hzero, abs_rat, abs_of_pos hy]
  rw [rem_rat hy.ne'] at hlo hhi ⊢
  split
  · next h =>
    have hsucc : x - y * truncate (x / y) + y = x - y * (truncate (x / y) - 1 : Int) := by
      push_cast
      ring
    rw [hsucc, sub_mul_floor_eq hy (by linarith) (by linarith)]
  · next h => rw [sub_mul_floor_eq hy (not_lt.mp h) hhi]

/-- A remainder that is made positive by a second one is the remainder of the floor. -/
theorem rem_rem_add (hy : 0 < y) (x : Rat) : rem (rem x y + y) y = x - y * ⌊x / y⌋ := by
  obtain ⟨hlo, -⟩ := rem_rat_mem hy x
  have hshift : rem x y + y = x + y * (1 - truncate (x / y) : Int) := by
    rw [rem_rat hy.ne']
    push_cast
    ring
  rw [rem_rat_of_nonneg (by linarith) hy, hshift, sub_mul_floor_add hy]

end Scalar
end LedStrip
