import LedStrip.Proofs.Effect.Painting
import LedStrip.Proofs.Number.Rounding

/-!
# Lawful scalars

The laws of a number type on which counting with scalars rests: comparisons go by exact values, and
integers are converted in order, without a loss up to 53 binary digits.  Where integers are added as
well, `LawfulSteps` has what is known of the sum.  Rationals obey these laws for want of any rounding,
and doubles because theirs is to the nearest.  `CountsTo` says how far a number type counts exactly; a
count that comes in as an integer is read as itself up to there (`positiveCount_int`).
-/

namespace LedStrip

/-- A number type whose comparisons and conversions are those of numbers. -/
class LawfulScalar (R : Type) [Scalar R] : Prop where
  lt_iff {x y : R} {p q : Rat} :
    Scalar.toRat? x = some p → Scalar.toRat? y = some q → (x < y ↔ p < q)
  le_iff {x y : R} {p q : Rat} :
    Scalar.toRat? x = some p → Scalar.toRat? y = some q → (x ≤ y ↔ p ≤ q)
  beq_iff {x y : R} {p q : Rat} :
    Scalar.toRat? x = some p → Scalar.toRat? y = some q → ((x == y) = true ↔ p = q)
  toRat?_neg {x : R} {p : Rat} : Scalar.toRat? x = some p → Scalar.toRat? (-x) = some (-p)
  toRat?_ofInt {n : Int} : |n| ≤ 2 ^ 53 → Scalar.toRat? (Scalar.ofInt n : R) = some n
  toRat?_ofInt_two_pow {k : Nat} : k < 64 → Scalar.toRat? (Scalar.ofInt (2 ^ k) : R) = some (2 ^ k)
  /-- Beyond 53 digits an integer may be rounded, but it has a value. -/
  finite_ofInt {n : Int} : |n| ≤ 2 ^ 64 → ∃ q, Scalar.toRat? (Scalar.ofInt n : R) = some q
  ofInt_mono {m n : Int} {p q : Rat} : m ≤ n → Scalar.toRat? (Scalar.ofInt m : R) = some p →
    Scalar.toRat? (Scalar.ofInt n : R) = some q → p ≤ q
  /-- The whole part of a scalar is a scalar. -/
  toRat?_truncate {x : R} {q : Rat} : Scalar.toRat? x = some q →
    Scalar.toRat? (Scalar.ofInt (truncate q) : R) = some (truncate q : Rat)

instance : LawfulScalar Rat where
  lt_iff := by rintro x y p q ⟨⟩ ⟨⟩; exact Iff.rfl
  le_iff := by rintro x y p q ⟨⟩ ⟨⟩; exact Iff.rfl
  beq_iff := by rintro x y p q ⟨⟩ ⟨⟩; exact beq_iff_eq
  toRat?_neg := by rintro x p ⟨⟩; rfl
  toRat?_ofInt _ := rfl
  toRat?_ofInt_two_pow _ := by simp [Scalar.toRat?, Scalar.ofInt, Scalar.ofRat]
  finite_ofInt _ := ⟨_, rfl⟩
  ofInt_mono := by rintro m n p q h ⟨⟩ ⟨⟩; exact Int.cast_le.mpr h
  toRat?_truncate _ := rfl

/-- A number type in which one can go from an integer to another by an integer. -/
class LawfulSteps (R : Type) [Scalar R] : Prop extends LawfulScalar R where
  /-- A sum is exact up to 53 digits. -/
  toRat?_add_ofInt {x : R} {m n : Int} : Scalar.toRat? x = some (m : Rat) → |n| ≤ 2 ^ 53 →
    |m + n| ≤ 2 ^ 53 → Scalar.toRat? (x + Scalar.ofInt n) = some ((m + n : Int) : Rat)
  /-- Beyond 53 digits it may be rounded, but it has a value that is beyond them, too. -/
  le_add_ofInt {x : R} {p : Rat} {n : Int} : Scalar.toRat? x = some p → |n| ≤ 2 ^ 53 →
    2 ^ 53 ≤ p + n → ∃ q, Scalar.toRat? (x + Scalar.ofInt n) = some q ∧ 2 ^ 53 ≤ q
  /-- The nearest integer of a scalar is a scalar. -/
  toRat?_roundHalfAway {x : R} {q : Rat} : Scalar.toRat? x = some q →
    Scalar.toRat? (Scalar.ofInt (roundHalfAway q) : R) = some (roundHalfAway q : Rat)

instance : LawfulSteps Rat where
  toRat?_add_ofInt := by
    rintro x m n ⟨⟩ - -
    exact congrArg some (Int.cast_add m n).symm
  le_add_ofInt := by
    rintro x p n ⟨⟩ - h
    exact ⟨_, rfl, h⟩
  toRat?_roundHalfAway _ := rfl

namespace Scalar

variable {R : Type} [Scalar R]

/-- Every number from zero to `n` is a scalar; doubles count to `2 ^ 53`. -/
def CountsTo (R : Type) [Scalar R] (n : Nat) : Prop :=
  ∀ k : Nat, k ≤ n → toRat? (ofInt (k : Int) : R) = some (k : Rat)

variable [LawfulScalar R]

theorem countsTo_of_le {n : Nat} (h : n ≤ 2 ^ 53) : CountsTo R n := fun k hk => by
  have : |(k : Int)| ≤ 2 ^ 53 := by rw [abs_of_nonneg (by omega)]; omega
  simpa using LawfulScalar.toRat?_ofInt (R := R) this

theorem countsTo_rat (n : Nat) : CountsTo Rat n := fun _ _ => rfl

/-! ### Small integers -/

theorem toRat?_zero : toRat? (ofInt 0 : R) = some 0 := countsTo_of_le (by norm_num) 0 le_rfl

theorem toRat?_one : toRat? (ofInt 1 : R) = some 1 := by
  simpa using countsTo_of_le (R := R) (n := 1) (by norm_num) 1 le_rfl

/-- Rounding a scalar to an integer that is a scalar. -/
theorem toRat?_mapExact {f : Rat → Int} {x : R} {q r : Rat} (hx : toRat? x = some q)
    (hr : toRat? (ofInt (f q) : R) = some r) : toRat? (mapExact f x) = some r := by
  rw [mapExact, hx]
  dsimp only
  split
  · -- The sign of a zero does not change its value.
    have hf : f q = 0 := by simp_all
    rw [hf, toRat?_zero] at hr
    obtain rfl : (0 : Rat) = r := Option.some.inj hr
    simpa [hf] using LawfulScalar.toRat?_neg (R := R) toRat?_zero
  · exact hr

theorem toRat?_trunc {x : R} {q : Rat} (hx : toRat? x = some q) :
    toRat? (trunc x) = some (truncate q : Rat) :=
  toRat?_mapExact hx (LawfulScalar.toRat?_truncate hx)

omit [LawfulScalar R] in
/-- A word of an integer that is a scalar. -/
theorem toWord_of_toRat? {x : R} {n : Int} (hx : toRat? x = some (n : Rat)) :
    toWord x = (max 0 (min (2 ^ 64 - 1) n)).toNat := by
  simp only [toWord, toNatIn, toIntIn, hx, truncate_ofInt]
  rfl

theorem toRat?_round {R : Type} [Scalar R] [LawfulSteps R] {x : R} {q : Rat}
    (hx : toRat? x = some q) : toRat? (round x) = some (roundHalfAway q : Rat) :=
  toRat?_mapExact hx (LawfulSteps.toRat?_roundHalfAway hx)

/-- A positive integer is no zero among scalars. -/
theorem ofInt_beq_zero {k : Int} (h1 : 1 ≤ k) (hk : k ≤ 2 ^ 64) :
    (ofInt k == (ofInt 0 : R)) = false := by
  obtain ⟨q, hq⟩ := LawfulScalar.finite_ofInt (R := R) (n := k) (by rw [abs_of_nonneg] <;> omega)
  have hle : 1 ≤ q := LawfulScalar.ofInt_mono h1 toRat?_one hq
  have hne : q ≠ 0 := by rintro rfl; norm_num at hle
  simpa using mt (LawfulScalar.beq_iff hq toRat?_zero).mp hne

theorem ofInt_zero_beq_zero : (ofInt 0 == (ofInt 0 : R)) = true :=
  (LawfulScalar.beq_iff toRat?_zero toRat?_zero).mpr rfl

end Scalar

/-! ### Finite numbers -/

section Finite

variable {R : Type} [Scalar R]

/-- A value that is no number, or a finite one.  Documents hold no other values. -/
def Json.IsFinite (v : Json R) : Prop := ∀ x, v.asNumber? = some x → Scalar.isFinite x = true

theorem Json.isFinite_int [LawfulScalar R] {n : Int} (h : |n| ≤ 2 ^ 64) :
    (Json.int n : Json R).IsFinite := by
  intro x hx
  obtain ⟨q, hq⟩ := LawfulScalar.finite_ofInt (R := R) h
  cases hx
  simp [Scalar.isFinite, hq]

end Finite

/-! ### Counts -/

open Scalar

variable {R : Type} [Scalar R] [LawfulScalar R]

omit [LawfulScalar R] in
theorem finiteNumber_of_toRat? {key : String} {v : Json R} {x : R} {q : Rat}
    (hv : v.asNumber? = some x) (hx : toRat? x = some q) : finiteNumber key v = .ok x := by
  simp [finiteNumber, hv, isFinite, hx, Option.filter]

section PositiveCount

variable (key : String) {v : Json R} {x : R} {q : Rat} (hv : v.asNumber? = some x)
  (hx : toRat? x = some q)

include hv hx

theorem positiveCount_of_one_le (hq : 1 ≤ q) :
    positiveCount key v = .ok (min (2 ^ 64 - 1) (truncate q).toNat) := by
  have hone : (1 : Int) ≤ truncate q := le_truncate (by norm_num) (by exact_mod_cast hq)
  have hle : (ofNat 1 : R) ≤ trunc x :=
    (LawfulScalar.le_iff toRat?_one (toRat?_trunc hx)).mpr (by exact_mod_cast hone)
  have hword : toWord (trunc x) = min (2 ^ 64 - 1) (truncate q).toNat := by
    rw [toWord_of_toRat? (toRat?_trunc hx)]
    omega
  rw [positiveCount, finiteNumber_of_toRat? hv hx]
  simp only [bind, Except.bind, hle, if_true, pure, Except.pure, hword]

theorem positiveCount_of_lt_one (hq : q < 1) : ∃ e, positiveCount key v = .error e := by
  have hlt : truncate q < 1 := by have := truncate_nonpos hq; omega
  have hnot : ¬ (ofNat 1 : R) ≤ trunc x :=
    mt (LawfulScalar.le_iff toRat?_one (toRat?_trunc hx)).mp (not_le.mpr (by exact_mod_cast hlt))
  rw [positiveCount, finiteNumber_of_toRat? hv hx]
  exact ⟨_, by simp only [bind, Except.bind, hnot, if_false]; rfl⟩

end PositiveCount

theorem positiveCount_pos {key : String} {v : Json R} {n : Nat}
    (h : positiveCount key v = .ok n) : 1 ≤ n := by
  cases hx : finiteNumber key v with
  | error e => simp [positiveCount, hx, bind, Except.bind] at h
  | ok x =>
    obtain ⟨y, hy, hfinite⟩ : ∃ y, v.asNumber? = some y ∧ isFinite y := by
      unfold finiteNumber at hx
      split at hx
      · next y hy =>
        exact ⟨y, (Option.filter_eq_some_iff.mp hy).1, (Option.filter_eq_some_iff.mp hy).2⟩
      · cases hx
    obtain ⟨q, hq⟩ := Option.isSome_iff_exists.mp hfinite
    rcases lt_or_ge q 1 with hlt | hle
    · obtain ⟨e, he⟩ := positiveCount_of_lt_one key hy hq hlt
      cases h.symm.trans he
    · have hcount := positiveCount_of_one_le key hy hq hle
      have hone : (1 : Int) ≤ truncate q := le_truncate (by norm_num) (by exact_mod_cast hle)
      have hn : n = min (2 ^ 64 - 1) (truncate q).toNat := Except.ok.inj (h.symm.trans hcount)
      omega

/-- A positive integer is read as a count: as itself as far as the scalars count, and beyond that
as something beyond that. -/
theorem positiveCount_int (key : String) {n : Nat} (hn : CountsTo R (n + 1)) {k : Nat} (h1 : 1 ≤ k)
    (hk : k ≤ 2 ^ 62) (hn62 : n < 2 ^ 62) :
    ∃ b, positiveCount key (.int k : Json R) = .ok b ∧ 1 ≤ b ∧ b ≤ 2 ^ 62 ∧ SameUpTo n k b := by
  obtain ⟨q, hq⟩ := LawfulScalar.finite_ofInt (R := R) (n := k) (by rw [abs_of_nonneg] <;> omega)
  have hpow : toRat? (ofInt (2 ^ 62) : R) = some (2 ^ 62) :=
    LawfulScalar.toRat?_ofInt_two_pow (by norm_num)
  have hq1 : 1 ≤ q := LawfulScalar.ofInt_mono (by omega) toRat?_one hq
  have hq62 : q ≤ 2 ^ 62 := LawfulScalar.ofInt_mono (by omega) hq hpow
  have ht1 : 1 ≤ truncate q := le_truncate (by norm_num) (by exact_mod_cast hq1)
  have ht62 : truncate q ≤ 2 ^ 62 := truncate_le (by linarith) (by exact_mod_cast hq62)
  refine ⟨_, positiveCount_of_one_le key rfl hq hq1, by omega, by omega, ?_⟩
  rcases Nat.lt_or_ge (n + 1) k with hlarge | hsmall
  · right
    have hqn : ((n + 1 : Nat) : Rat) ≤ q :=
      LawfulScalar.ofInt_mono (by omega) (hn (n + 1) le_rfl) hq
    have htn : ((n + 1 : Nat) : Int) ≤ truncate q := le_truncate (by omega) (by exact_mod_cast hqn)
    omega
  · left
    obtain rfl : (k : Rat) = q := Option.some.inj ((hn k hsmall).symm.trans hq)
    have htk : truncate (k : Rat) = k := truncate_ofInt k
    omega

end LedStrip
