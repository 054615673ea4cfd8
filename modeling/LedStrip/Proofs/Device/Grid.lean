import LedStrip.Proofs.Device.Placements
import LedStrip.Proofs.Number.Rational

/-!
# Cells of a grid

A point of a canvas goes to the cell of a text grid that is nearest to it.  Columns and rows are the
same thing on two axes, where rows are counted downwards: a fraction of an axis is kept between its
ends, scaled to the cells and rounded (`gridIndex_eq`).  So a line of cells is never left
(`gridIndex_le`), its order is kept (`gridIndex_mono`), and a fraction of the axis is half a cell
away at most (`abs_gridIndex_sub_le`).  Numbers are exact here, and counts of cells are words of 16
bits.
-/

namespace LedStrip
namespace Device

/-! ### One axis -/

section Axis

variable {count : Nat}

/-- A fraction of an axis goes to the nearest cell, and what lies beyond an end to the end. -/
theorem gridIndex_eq (hcount : count ≤ 2 ^ 16) (f : Rat) :
    (gridIndex f count : Int) = roundHalfAway (max 0 (min 1 f) * (count - 1 : Nat)) := by
  have hcells : (0 : Rat) ≤ (count - 1 : Nat) := Nat.cast_nonneg _
  have hkept : (0 : Rat) ≤ max 0 (min 1 f) ∧ max 0 (min 1 f) ≤ 1 :=
    ⟨le_max_left _ _, max_le zero_le_one (min_le_left _ _)⟩
  have hclamp : Scalar.clamp (Scalar.ofNat 0) (Scalar.ofNat 1) f = max 0 (min 1 f) :=
    Scalar.clamp_rat zero_le_one f
  have hscaled : Scalar.ofNat (count - 1) = ((count - 1 : Nat) : Rat) := Int.cast_natCast _
  have h0 : 0 ≤ roundHalfAway (max 0 (min 1 f) * (count - 1 : Nat)) :=
    roundHalfAway_nonneg (mul_nonneg hkept.1 hcells)
  have hle : roundHalfAway (max 0 (min 1 f) * (count - 1 : Nat)) ≤ (count - 1 : Nat) :=
    roundHalfAway_le (by
      rw [Int.cast_natCast]
      exact mul_le_of_le_one_left hcells hkept.2)
  rw [gridIndex, hclamp, hscaled, Scalar.round_rat, Scalar.toNatIn_intCast]
  omega

theorem gridIndex_le (hcount : count ≤ 2 ^ 16) (f : Rat) : gridIndex f count ≤ count - 1 := by
  have hle : max 0 (min 1 f) * (count - 1 : Nat) ≤ ((count - 1 : Nat) : Int) := by
    rw [Int.cast_natCast]
    exact mul_le_of_le_one_left (Nat.cast_nonneg _) (max_le zero_le_one (min_le_left _ _))
  have hround := roundHalfAway_le hle
  rw [← gridIndex_eq hcount] at hround
  exact Int.ofNat_le.mp hround

theorem gridIndex_mono (hcount : count ≤ 2 ^ 16) :
    Monotone fun f : Rat => gridIndex f count := by
  intro f f' h
  have hkept : max 0 (min 1 f) ≤ max 0 (min 1 f') := max_le_max_left 0 (min_le_min_left 1 h)
  have hround := roundHalfAway_mono
    (mul_le_mul_of_nonneg_right hkept (Nat.cast_nonneg (α := Rat) (count - 1)))
  rw [← gridIndex_eq hcount, ← gridIndex_eq hcount] at hround
  exact Int.ofNat_le.mp hround

theorem gridIndex_of_nonpos (hcount : count ≤ 2 ^ 16) {f : Rat} (hf : f ≤ 0) :
    gridIndex f count = 0 := by
  have hround := gridIndex_eq hcount f
  rw [max_eq_left ((min_le_right 1 f).trans hf), zero_mul, ← Int.cast_zero,
    roundHalfAway_ofInt] at hround
  exact Int.ofNat_eq_zero.mp hround

theorem gridIndex_of_one_le (hcount : count ≤ 2 ^ 16) {f : Rat} (hf : 1 ≤ f) :
    gridIndex f count = count - 1 := by
  have hround := gridIndex_eq hcount f
  rw [min_eq_left hf, max_eq_right zero_le_one, one_mul,
    ← Int.cast_natCast (R := Rat), roundHalfAway_ofInt] at hround
  exact Int.ofNat_inj.mp hround

/-- The cell of a fraction of the axis is half a cell away from it at most. -/
theorem abs_gridIndex_sub_le (hcount : count ≤ 2 ^ 16) {f : Rat} (h0 : 0 ≤ f) (h1 : f ≤ 1) :
    |(gridIndex f count : Rat) - f * (count - 1 : Nat)| ≤ 1 / 2 := by
  have hround := gridIndex_eq hcount f
  rw [min_eq_right h1, max_eq_right h0] at hround
  rw [← Int.cast_natCast, hround, abs_sub_comm]
  exact abs_sub_roundHalfAway_le _

end Axis

/-! ### Both axes -/

/-- How far a point of an axis is from its left or lower end, as a fraction of its length. -/
def along (length x : Rat) : Rat := x / length + 1 / 2

/-- Downwards an axis is the same with the sign of its points changed. -/
theorem along_neg (length x : Rat) : along length (-x) = 1 / 2 - x / length := by
  rw [along, neg_div]
  ring

section Along

variable {length x : Rat} (hlength : 0 < length)

include hlength

theorem along_mono : Monotone (along length) := fun _ _ h =>
  add_le_add_left (div_le_div_of_nonneg_right h hlength.le) _

theorem along_nonpos_iff : along length x ≤ 0 ↔ x ≤ -(length / 2) := by
  rw [along, ← le_neg_iff_add_nonpos_right, div_le_iff₀ hlength]
  constructor <;> intro h <;> linarith

theorem one_le_along_iff : 1 ≤ along length x ↔ length / 2 ≤ x := by
  rw [along, ← sub_le_iff_le_add, le_div_iff₀ hlength]
  constructor <;> intro h <;> linarith

theorem along_mem (hx : |x| ≤ length / 2) : 0 ≤ along length x ∧ along length x ≤ 1 := by
  obtain ⟨hlo, hhi⟩ := abs_le.mp hx
  have hleft : along length (-(length / 2)) = 0 := by
    rw [along]
    field_simp
    norm_num
  have hright : along length (length / 2) = 1 := by
    rw [along]
    field_simp
    norm_num
  exact ⟨hleft ▸ along_mono hlength hlo, hright ▸ along_mono hlength hhi⟩

end Along

theorem cell_eq (d : Device Rat) (x y : Rat) (cols rows : Nat) :
    d.cell x y cols rows = (gridIndex (along d.canvas.width x) cols,
      gridIndex (along d.canvas.height (-y)) rows) := by
  rw [along_neg]
  rfl

/-- **Points of the plane on a grid.**  On a canvas as the check wants it, with grids of some
columns and rows:

* Every point has a cell of the grid.  Its column is a question of `x` alone and does not go back
  as `x` grows, its row is a question of `y` alone and does not go down as `y` grows.
* What is at an edge of the canvas or beyond it has a cell at that edge.
* Between the edges the cell is half a cell away from the scaled point at most, either way. -/
theorem cells_on_grid (d : Device Rat) (hwidth : Canvas.Positive d.canvas.width)
    (hheight : Canvas.Positive d.canvas.height) {cols rows : Nat} (hcols : 1 ≤ cols)
    (hrows : 1 ≤ rows) (hcols16 : cols < 2 ^ 16) (hrows16 : rows < 2 ^ 16) :
    let col (x y : Rat) := (d.cell x y cols rows).1
    let row (x y : Rat) := (d.cell x y cols rows).2
    let w := d.canvas.width
    let h := d.canvas.height
    (∀ x y, col x y ≤ cols - 1 ∧ row x y ≤ rows - 1) ∧
      (∀ x x' y y', (x = x' → col x y = col x' y') ∧ (y = y' → row x y = row x' y')) ∧
      (∀ x x' y y', (x ≤ x' → col x y ≤ col x' y') ∧ (y ≤ y' → row x' y' ≤ row x y)) ∧
      (∀ x y, (x ≤ -(w / 2) → col x y = 0) ∧ (w / 2 ≤ x → col x y = cols - 1) ∧
        (h / 2 ≤ y → row x y = 0) ∧ (y ≤ -(h / 2) → row x y = rows - 1)) ∧
      ∀ x y, (|x| ≤ w / 2 → |(col x y : Rat) - (x / w + 1 / 2) * (cols - 1)| ≤ 1 / 2) ∧
        (|y| ≤ h / 2 → |(row x y : Rat) - (1 / 2 - y / h) * (rows - 1)| ≤ 1 / 2) := by
  intro col row w h
  have hw : 0 < w := (Canvas.positive_iff rfl).mp hwidth
  have hh : 0 < h := (Canvas.positive_iff rfl).mp hheight
  have hcol : ∀ x y, col x y = gridIndex (along w x) cols := fun x y =>
    congrArg Prod.fst (d.cell_eq x y cols rows)
  have hrow : ∀ x y, row x y = gridIndex (along h (-y)) rows := fun x y =>
    congrArg Prod.snd (d.cell_eq x y cols rows)
  simp only [hcol, hrow]
  have hcols16 := hcols16.le
  have hrows16 := hrows16.le
  refine ⟨fun x y => ⟨gridIndex_le hcols16 _, gridIndex_le hrows16 _⟩,
    fun x x' y y' => ⟨fun hx => by rw [hx], fun hy => by rw [hy]⟩,
    fun x x' y y' => ⟨fun hx => ?_, fun hy => ?_⟩,
    fun x y => ⟨fun hx => ?_, fun hx => ?_, fun hy => ?_, fun hy => ?_⟩,
    fun x y => ⟨fun hx => ?_, fun hy => ?_⟩⟩
  · exact gridIndex_mono hcols16 (along_mono hw hx)
  · exact gridIndex_mono hrows16 (along_mono hh (neg_le_neg hy))
  · exact gridIndex_of_nonpos hcols16 ((along_nonpos_iff hw).mpr hx)
  · exact gridIndex_of_one_le hcols16 ((one_le_along_iff hw).mpr hx)
  · exact gridIndex_of_nonpos hrows16 ((along_nonpos_iff hh).mpr (neg_le_neg hy))
  · exact gridIndex_of_one_le hrows16 ((one_le_along_iff hh).mpr (le_neg.mp hy))
  · obtain ⟨h0, h1⟩ := along_mem hw hx
    have hnear := abs_gridIndex_sub_le hcols16 h0 h1
    rwa [Nat.cast_sub hcols, Nat.cast_one, along] at hnear
  · obtain ⟨h0, h1⟩ := along_mem hh ((abs_neg y).trans_le hy)
    have hnear := abs_gridIndex_sub_le hrows16 h0 h1
    rw [← along_neg h y]
    rwa [Nat.cast_sub hrows, Nat.cast_one] at hnear

/-- On a grid of 21 columns and 11 rows the center of a canvas is in the middle, its upper left
corner in the first cell, and a point far out on the right in the last column. -/
theorem center_is_in_the_middle :
    let d : Device Rat :=
      { id := "quad", name := "Quad", canvas := ⟨200, 100, "center"⟩, strips := [] }
    Canvas.Positive d.canvas.width ∧ Canvas.Positive d.canvas.height ∧
      d.cell (-100) 50 21 11 = (0, 0) ∧ (d.cell 1000 0 21 11).1 = 20 ∧
      |((d.cell 0 0 21 11).1 : Rat) - 10| ≤ 1 / 2 ∧ |((d.cell 0 0 21 11).2 : Rat) - 5| ≤ 1 / 2 := by
  intro d
  have hwidth : Canvas.Positive d.canvas.width := (Canvas.positive_iff rfl).mpr (by norm_num [d])
  have hheight : Canvas.Positive d.canvas.height := (Canvas.positive_iff rfl).mpr (by norm_num [d])
  obtain ⟨-, -, -, hedges, hnear⟩ := cells_on_grid d hwidth hheight (show 1 ≤ 21 by decide)
    (show 1 ≤ 11 by decide) (by decide) (by decide)
  obtain ⟨hleft, -, htop, -⟩ := hedges (-100) 50
  obtain ⟨-, hright, -, -⟩ := hedges 1000 0
  obtain ⟨hcol, hrow⟩ := hnear 0 0
  refine ⟨hwidth, hheight, Prod.ext (hleft ?_) (htop ?_), hright ?_, ?_, ?_⟩
  · norm_num [d]
  · norm_num [d]
  · norm_num [d]
  · have hten := hcol (by norm_num [d])
    norm_num at hten ⊢
    exact hten
  · have hfive := hrow (by norm_num [d])
    norm_num at hfive ⊢
    exact hfive

end Device
end LedStrip
