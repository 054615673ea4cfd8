import Mathlib.Algebra.Order.Floor.Ring
import Mathlib.Data.Rat.Floor
import Mathlib.Tactic.Linarith
import LedStrip.Number.Rounding

/-!
# Floors, halves and the nearest integer

On numbers that are not negative `truncate` is the floor and `roundHalfAway` the floor of a half
more.  Both are odd functions, so that a fact about all numbers is one about the positive ones: the
nearest integer is a half away at most (`abs_sub_roundHalfAway_le`), and it keeps the order
(`roundHalfAway_mono`).
-/

namespace LedStrip

theorem onMagnitude_of_nonneg {f : Nat → Nat → Nat} {q : Rat} (hq : 0 ≤ q) :
    onMagnitude f q = (f q.num.natAbs q.den : Int) :=
  if_neg (not_lt.mpr (Rat.num_nonneg.mpr hq))

theorem onMagnitude_neg {f : Nat → Nat → Nat} (hf : ∀ d, 0 < d → f 0 d = 0) (q : Rat) :
    onMagnitude f (-q) = -onMagnitude f q := by
  unfold onMagnitude
  rw [Rat.num_neg_eq_neg_num, Rat.den_neg_eq_den, Int.natAbs_neg]
  rcases lt_trichotomy q.num 0 with h | h | h
  · rw [if_neg (by omega), if_pos h, neg_neg]
  · simp [h, hf q.den q.den_pos]
  · rw [if_pos (by omega), if_neg (by omega)]

/-! ### Truncation -/

theorem truncate_of_nonneg {q : Rat} (hq : 0 ≤ q) : truncate q = ⌊q⌋ := by
  have hnum : 0 ≤ q.num := Rat.num_nonneg.mpr hq
  rw [truncate, onMagnitude_of_nonneg hq, Rat.floor_def']
  push_cast
  rw [abs_of_nonneg hnum]

theorem truncate_neg (q : Rat) : truncate (-q) = -truncate q :=
  onMagnitude_neg (fun d _ => Nat.zero_div d) q

theorem le_truncate {m : Int} {q : Rat} (hm : 0 ≤ m) (h : (m : Rat) ≤ q) : m ≤ truncate q := by
  rw [truncate_of_nonneg (le_trans (Int.cast_nonneg hm) h)]
  exact Int.le_floor.mpr h

theorem truncate_le {m : Int} {q : Rat} (hq : 0 ≤ q) (h : q ≤ m) : truncate q ≤ m := by
  rw [truncate_of_nonneg hq]
  exact Int.cast_le.mp ((Int.floor_le q).trans h)

theorem truncate_nonpos {q : Rat} (hq : q < 1) : truncate q ≤ 0 := by
  rcases lt_or_ge q 0 with hneg | hpos
  · rw [truncate, onMagnitude, if_pos (Rat.num_neg.mpr hneg)]
    exact Int.neg_nonpos_of_nonneg (Int.natCast_nonneg _)
  · have hfloor : ⌊q⌋ < 1 := Int.floor_lt.mpr (by exact_mod_cast hq)
    rw [truncate_of_nonneg hpos]
    omega

/-! ### The nearest integer -/

theorem roundHalfAway_of_nonneg {q : Rat} (hq : 0 ≤ q) : roundHalfAway q = ⌊q + 1 / 2⌋ := by
  have hd : (0 : Rat) < q.den := Nat.cast_pos.mpr q.den_pos
  have hnum : q * q.den = (q.num.natAbs : Rat) := by
    rw [Rat.mul_den_eq_num, ← Int.cast_natCast, Int.natAbs_of_nonneg (Rat.num_nonneg.mpr hq)]
  rw [roundHalfAway, onMagnitude_of_nonneg hq, eq_comm, Int.floor_eq_iff]
  generalize q.num.natAbs = n at hnum
  -- the quotient `k` is the one with `k * (2 * d) ≤ 2 * n + d < (k + 1) * (2 * d)`
  have hpos : 0 < 2 * q.den := Nat.mul_pos Nat.two_pos q.den_pos
  have hle := Nat.div_mul_le_self (2 * n + q.den) (2 * q.den)
  have hlt := Nat.lt_mul_div_succ (2 * n + q.den) hpos
  generalize (2 * n + q.den) / (2 * q.den) = k at hle hlt
  have hle' : (k : Rat) * (2 * q.den) ≤ 2 * n + q.den := by exact_mod_cast hle
  have hlt' : (2 * n + q.den : Rat) < 2 * q.den * (k + 1) := by exact_mod_cast hlt
  rw [Int.cast_natCast]
  constructor
  · refine le_of_mul_le_mul_right ?_ hd
    linarith
  · refine lt_of_mul_lt_mul_right ?_ hd.le
    linarith

theorem roundHalfAway_neg (q : Rat) : roundHalfAway (-q) = -roundHalfAway q := by
  refine onMagnitude_neg (fun d hd => ?_) q
  exact Nat.div_eq_of_lt (by omega)

/-- The nearest integer is a half away at most. -/
theorem abs_sub_roundHalfAway_le (q : Rat) : |q - roundHalfAway q| ≤ 1 / 2 := by
  have hnonneg : ∀ {q : Rat}, 0 ≤ q → |q - roundHalfAway q| ≤ 1 / 2 := fun {q} hq => by
    have hle := Int.floor_le (q + 1 / 2)
    have hlt := Int.lt_floor_add_one (q + 1 / 2)
    rw [roundHalfAway_of_nonneg hq, abs_le]
    constructor <;> linarith
  rcases le_total 0 q with h | h
  · exact hnonneg h
  · have hneg := hnonneg (neg_nonneg.mpr h)
    rw [roundHalfAway_neg, Int.cast_neg, neg_sub_neg, abs_sub_comm] at hneg
    exact hneg

theorem roundHalfAway_nonneg {q : Rat} (hq : 0 ≤ q) : 0 ≤ roundHalfAway q := by
  rw [roundHalfAway_of_nonneg hq]
  exact Int.floor_nonneg.mpr (by linarith)

theorem roundHalfAway_mono {p q : Rat} (h : p ≤ q) : roundHalfAway p ≤ roundHalfAway q := by
  have hnonneg : ∀ {p q : Rat}, 0 ≤ p → p ≤ q → roundHalfAway p ≤ roundHalfAway q :=
    fun {p q} hp h => by
      rw [roundHalfAway_of_nonneg hp, roundHalfAway_of_nonneg (hp.trans h)]
      exact Int.floor_mono (by linarith)
  rcases le_total 0 p with hp | hp
  · exact hnonneg hp h
  · have hp' : 0 ≤ roundHalfAway (-p) := roundHalfAway_nonneg (neg_nonneg.mpr hp)
    rw [roundHalfAway_neg] at hp'
    rcases le_total 0 q with hq | hq
    · have hq' := roundHalfAway_nonneg hq
      omega
    · have hneg := hnonneg (neg_nonneg.mpr hq) (neg_le_neg h)
      rw [roundHalfAway_neg, roundHalfAway_neg] at hneg
      omega

/-- A number that is no less than an integer is not rounded below it. -/
theorem le_roundHalfAway {m : Int} {q : Rat} (h : (m : Rat) ≤ q) : m ≤ roundHalfAway q :=
  roundHalfAway_ofInt m ▸ roundHalfAway_mono h

theorem roundHalfAway_le {m : Int} {q : Rat} (h : q ≤ m) : roundHalfAway q ≤ m :=
  roundHalfAway_ofInt m ▸ roundHalfAway_mono h

end LedStrip
