import Mathlib.Data.List.Induction
import LedStrip.Frame

/-!
# Pixels of a frame

The pixels of a frame come from one walk over its bytes, three at a time; a single LED is read at its
offset.  Both see the same colors (`getElem?_pixels`), and no LED is left out (`length_pixels`), so
that the LEDs that are lit can be told by reading one LED after the other (`lit_eq`).
-/

namespace LedStrip
namespace Frame

/-- What no triple can be taken from is shorter than three bytes. -/
theorem length_lt_three {bytes : List UInt8}
    (h : ∀ r g b rest, bytes = r :: g :: b :: rest → False) : bytes.length < 3 := by
  match bytes, h with
  | [], _ | [_], _ | [_, _], _ => simp
  | r :: g :: b :: rest, h => exact (h r g b rest rfl).elim

theorem getElem?_triples (bytes : List UInt8) (i : Nat) :
    (triples bytes)[i]? = (Frame.mk bytes.toArray).get? i := by
  fun_induction triples bytes generalizing i with
  | case1 r g b rest ih =>
    cases i with
    | zero => simp [get?]
    | succ i => simp [ih, get?, Nat.mul_add]
  | case2 bytes hshort =>
    have hlength := length_lt_three hshort
    have hmissing : bytes[3 * i + 2]? = none := List.getElem?_eq_none (by omega)
    simp only [List.getElem?_nil, get?, List.getElem?_toArray, hmissing]
    split
    · next h => cases h
    · rfl

theorem length_triples (bytes : List UInt8) : (triples bytes).length = bytes.length / 3 := by
  fun_induction triples bytes with
  | case1 r g b rest ih => simp only [List.length_cons, ih]; omega
  | case2 bytes hshort => exact (Nat.div_eq_of_lt (length_lt_three hshort)).symm

variable (f : Frame) {i : Nat}

theorem getElem?_pixels (i : Nat) : f.pixels[i]? = f.get? i := by
  rw [pixels, getElem?_triples]

theorem length_pixels : f.pixels.length = f.ledCount := by
  rw [pixels, length_triples, Array.length_toList]
  rfl

variable {f}

/-- The color of an LED is made of its three bytes. -/
theorem get?_eq_some_iff {c : Rgb} : f.get? i = some c ↔
    f.bytes[3 * i]? = some c.r ∧ f.bytes[3 * i + 1]? = some c.g ∧ f.bytes[3 * i + 2]? = some c.b := by
  obtain ⟨r, g, b⟩ := c
  unfold get?
  cases f.bytes[3 * i]? <;> cases f.bytes[3 * i + 1]? <;> cases f.bytes[3 * i + 2]? <;> simp

theorem get?_of_le (h : f.ledCount ≤ i) : f.get? i = none := by
  rw [← getElem?_pixels]
  exact List.getElem?_eq_none (by rwa [length_pixels])

/-- Every LED of a frame has a color. -/
theorem exists_get?_eq (h : 3 * i + 2 < f.size) : ∃ c, f.get? i = some c := by
  have hlt : i < f.pixels.length := by
    rw [length_pixels, ledCount]
    omega
  exact ⟨f.pixels[i], by rw [← getElem?_pixels, List.getElem?_eq_getElem hlt]⟩

theorem mem_pixels {p : Rgb} : p ∈ f.pixels ↔ ∃ i, f.get? i = some p := by
  simp only [List.mem_iff_getElem?, getElem?_pixels]

variable (f)

theorem map_some_pixels : f.pixels.map some = (List.range f.ledCount).map f.get? := by
  refine List.ext_getElem? fun i => ?_
  rw [List.getElem?_map, getElem?_pixels, List.getElem?_map]
  rcases Nat.lt_or_ge i f.ledCount with h | h
  · obtain ⟨c, hc⟩ : ∃ c, f.get? i = some c := exists_get?_eq (by rw [ledCount] at h; omega)
    rw [List.getElem?_range h, hc, Option.map_some, Option.map_some, hc]
  · rw [get?_of_le h, List.getElem?_eq_none (by rwa [List.length_range])]
    rfl

theorem pixels_eq : f.pixels = (List.range f.ledCount).filterMap f.get? :=
  calc f.pixels = (f.pixels.map some).filterMap id := by
        rw [List.filterMap_map]
        exact List.filterMap_some.symm
    _ = (List.range f.ledCount).filterMap f.get? := by
        rw [map_some_pixels, List.filterMap_map]
        rfl

/-- The positions of the members of a list that pass a test, by looking at every position. -/
theorem filter_zipIdx {α : Type} (p : α → Bool) (xs : List α) :
    (xs.zipIdx.filter fun x => p x.1).map Prod.snd =
      (List.range xs.length).filter fun i => (xs[i]?.map p).getD false := by
  induction xs using List.reverseRecOn with
  | nil => rfl
  | append_singleton xs x ih =>
    have hold : ∀ i ∈ List.range xs.length,
        ((xs[i]?.map p).getD false) = (((xs ++ [x])[i]?.map p).getD false) := fun i hi => by
      rw [List.getElem?_append_left (List.mem_range.mp hi)]
    rw [List.zipIdx_append, List.filter_append, List.map_append, ih, List.filter_congr hold,
      List.length_append, List.length_singleton, List.range_succ, List.filter_append]
    cases hp : p x <;> simp [hp]

/-- **The LEDs that are lit** are those that show a color other than black, in order. -/
theorem lit_eq : f.lit = (List.range f.ledCount).filter fun i => ((f.get? i).map Rgb.isLit).getD false := by
  rw [lit, filter_zipIdx, length_pixels]
  simp only [getElem?_pixels]

end Frame
end LedStrip
