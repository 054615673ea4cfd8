import Mathlib.Data.List.Induction
import LedStrip.Effect.Chase
import LedStrip.Effect.Wave

/-!
# Painting LEDs in one color

`Frame.paint` paints some LEDs of a frame in one color.  What comes out depends only on which LEDs
are painted (`paint_congr`), neither on their order nor on how often each one is.  The frames of the
effects with one color are all of this form.
-/

namespace LedStrip
namespace Frame

/-- A frame with some of its LEDs painted. -/
def paint (f : Frame) (c : Rgb) (leds : List Nat) : Frame := leds.foldl (fun f i => f.set i c) f

variable {f : Frame} {c : Rgb} {i j : Nat} {leds : List Nat}

section Bytes

variable (hsize : f.size < 2 ^ 64)

include hsize

theorem set_of_le (h : 3 * i + 3 ≤ f.size) (c : Rgb) :
    f.set i c = ⟨((f.bytes.setIfInBounds (3 * i) c.r).setIfInBounds (3 * i + 1) c.g).setIfInBounds
      (3 * i + 2) c.b⟩ := by
  have hmod : 3 * i % 2 ^ 64 = 3 * i := Nat.mod_eq_of_lt (by omega)
  rw [set, hmod, write, if_pos h]

theorem getElem?_set_of_le (h : 3 * i + 3 ≤ f.size) (c : Rgb) (j : Nat) :
    (f.set i c).bytes[j]? =
      if j / 3 = i then some (channelAt c (j % 3)) else f.bytes[j]? := by
  have hbound : 3 * i + 3 ≤ f.bytes.size := h
  rw [set_of_le hsize h]
  simp only [Array.getElem?_setIfInBounds, Array.size_setIfInBounds]
  by_cases hq : j / 3 = i
  · rw [if_pos hq]
    obtain hk | hk | hk : j % 3 = 0 ∨ j % 3 = 1 ∨ j % 3 = 2 := by omega
    · obtain rfl : j = 3 * i := by omega
      simp [channelAt, show 3 * i < f.bytes.size by omega]
    · obtain rfl : j = 3 * i + 1 := by omega
      simp [channelAt, hk, show 3 * i + 1 < f.bytes.size by omega]
    · obtain rfl : j = 3 * i + 2 := by omega
      simp [channelAt, hk, show 3 * i + 2 < f.bytes.size by omega]
  · rw [if_neg hq, if_neg (by omega), if_neg (by omega), if_neg (by omega)]

end Bytes

@[simp] theorem paint_nil (f : Frame) (c : Rgb) : f.paint c [] = f := rfl

theorem paint_concat (f : Frame) (c : Rgb) (leds : List Nat) (i : Nat) :
    f.paint c (leds ++ [i]) = (f.paint c leds).set i c := by
  simp [paint]

/-- Painting does not change the size of a frame, whatever is painted in which colors. -/
theorem size_foldl_set {α : Type} (xs : List α) (led : α → Nat) (color : α → Rgb) (f : Frame) :
    (xs.foldl (fun f x => f.set (led x) (color x)) f).size = f.size := by
  induction xs generalizing f with
  | nil => rfl
  | cons x xs ih => rw [List.foldl_cons, ih, size_set]

@[simp] theorem size_paint (f : Frame) (c : Rgb) (leds : List Nat) :
    (f.paint c leds).size = f.size := size_foldl_set leds (fun i => i) (fun _ => c) f

theorem getElem?_paint_of_le (hsize : f.size < 2 ^ 64) (h : ∀ i ∈ leds, 3 * i + 3 ≤ f.size)
    (c : Rgb) (j : Nat) :
    (f.paint c leds).bytes[j]? =
      if j / 3 ∈ leds then some (channelAt c (j % 3)) else f.bytes[j]? := by
  induction leds using List.reverseRecOn with
  | nil => simp
  | append_singleton leds i ih =>
    have hi : 3 * i + 3 ≤ f.size := h i (by simp)
    have ih := ih fun k hk => h k (List.mem_append_left _ hk)
    have hpainted : (f.paint c leds).size = f.size := size_paint f c leds
    rw [paint_concat, getElem?_set_of_le (hpainted ▸ hsize) (hpainted ▸ hi), ih]
    by_cases hj : j / 3 = i <;> simp [hj]

/-- An LED whose three bytes are there; offsets do not wrap on such a frame. -/
structure Has (f : Frame) (i : Nat) : Prop where
  bound : 3 * i + 3 ≤ f.size
  size_lt : f.size < 2 ^ 63

theorem Has.of_size {g : Frame} (h : f.Has i) (hg : g.size = f.size) : g.Has i :=
  ⟨hg ▸ h.bound, hg ▸ h.size_lt⟩

theorem Has.size_lt_word (h : f.Has i) : f.size < 2 ^ 64 :=
  Nat.lt_trans h.size_lt (by decide)

theorem set_of_has (h : f.Has i) (c : Rgb) :
    f.set i c = ⟨((f.bytes.setIfInBounds (3 * i) c.r).setIfInBounds (3 * i + 1) c.g).setIfInBounds
      (3 * i + 2) c.b⟩ := set_of_le h.size_lt_word h.bound c

theorem getElem?_paint (h : ∀ i ∈ leds, f.Has i) (c : Rgb) (j : Nat) :
    (f.paint c leds).bytes[j]? =
      if j / 3 ∈ leds then some (channelAt c (j % 3)) else f.bytes[j]? := by
  cases leds with
  | nil => simp
  | cons i leds =>
    have hi : f.Has i := h i List.mem_cons_self
    exact getElem?_paint_of_le hi.size_lt_word (fun k hk => (h k hk).bound) c j

/-- **Only the set of painted LEDs matters.** -/
theorem paint_congr {leds' : List Nat} (h : ∀ i ∈ leds, f.Has i)
    (hmem : ∀ i, i ∈ leds ↔ i ∈ leds') (c : Rgb) : f.paint c leds = f.paint c leds' := by
  have h' : ∀ i ∈ leds', f.Has i := fun i hi => h i ((hmem i).mpr hi)
  have hbytes : (f.paint c leds).bytes = (f.paint c leds').bytes :=
    Array.ext_getElem? fun j => by simp only [getElem?_paint h, getElem?_paint h', hmem]
  exact congrArg Frame.mk hbytes

/-! ### Strips -/

theorem has_of_size {n : Nat} (hn : 3 * n < 2 ^ 63) (hf : f.size = byteCount n) (hi : i < n) :
    f.Has i := by
  have hsize : byteCount n = 3 * n := Nat.mod_eq_of_lt (by omega)
  exact ⟨by omega, by omega⟩

theorem has_blank {n : Nat} (hn : 3 * n < 2 ^ 63) (hi : i < n) : (blank n).Has i :=
  has_of_size hn (size_blank n) hi

theorem getElem?_fill (f : Frame) (c : Rgb) (j : Nat) :
    (f.fill c).bytes[j]? =
      f.bytes[j]?.map fun b => if j < 3 * f.ledCount then channelAt c (j % 3) else b := by
  simp [fill, Array.getElem?_mapIdx]

theorem getElem?_blank (n j : Nat) :
    (blank n).bytes[j]? = if j < byteCount n then some 0 else none := by
  simp [blank, Array.getElem?_replicate]

/-- To fill a strip is to paint all its LEDs. -/
theorem fill_blank {n : Nat} (hn : 3 * n < 2 ^ 63) (c : Rgb) :
    (blank n).fill c = (blank n).paint c (List.range n) := by
  have hsize : byteCount n = 3 * n := Nat.mod_eq_of_lt (by omega)
  have hcount : (blank n).ledCount = n := by simp [ledCount, hsize]
  have hbytes : ((blank n).fill c).bytes = ((blank n).paint c (List.range n)).bytes := by
    refine Array.ext_getElem? fun j => ?_
    rw [getElem?_paint (fun i hi => has_blank hn (List.mem_range.mp hi)), getElem?_fill,
      getElem?_blank, hcount, hsize]
    by_cases hj : j < 3 * n
    · simp [hj, show j / 3 < n by omega]
    · simp [hj, show ¬ j / 3 < n by omega]
  exact congrArg mk hbytes

theorem ledCount_paint_blank {n : Nat} (hn : 3 * n < 2 ^ 64) (c : Rgb) (leds : List Nat) :
    ((blank n).paint c leds).ledCount = n := by
  rw [ledCount, size_paint, size_blank, byteCount, Nat.mod_eq_of_lt hn]
  omega

/-- A strip with some LEDs painted shows the color there and is dark elsewhere. -/
theorem get?_paint_blank {n : Nat} (hn : 3 * n < 2 ^ 64) (h : ∀ i ∈ leds, i < n) (c : Rgb)
    (i : Nat) : ((blank n).paint c leds).get? i =
      if i ∈ leds then some c else if i < n then some Rgb.black else none := by
  have hsize : (blank n).size = 3 * n := (size_blank n).trans (Nat.mod_eq_of_lt hn)
  have hbytes := getElem?_paint_of_le (f := blank n) (by omega) (c := c)
    fun k hk => by have := h k hk; omega
  have hdiv : 3 * i / 3 = i ∧ (3 * i + 1) / 3 = i ∧ (3 * i + 2) / 3 = i := by omega
  have hmod : 3 * i % 3 = 0 ∧ (3 * i + 1) % 3 = 1 ∧ (3 * i + 2) % 3 = 2 := by omega
  have hcount : byteCount n = 3 * n := Nat.mod_eq_of_lt hn
  simp only [get?, hbytes, getElem?_blank, hdiv, hmod, hcount]
  by_cases hi : i ∈ leds
  · simp [hi, channelAt]
  · by_cases hin : i < n
    · simp [hi, hin, show 3 * i < 3 * n by omega, show 3 * i + 1 < 3 * n by omega,
        show 3 * i + 2 < 3 * n by omega, Rgb.black]
    · simp [hi, hin]

end Frame

/-- Two counts that make no difference to a strip of `n` LEDs: they are the same, or both are larger
than the strip. -/
def SameUpTo (n a b : Nat) : Prop := a = b ∨ (n < a ∧ n < b)

/-! ### Chase -/

namespace Chase

/-- The LEDs that are on: `count` of them, evenly spaced from a position on. -/
def spots (n count position : Nat) : List Nat :=
  (List.range count).map fun i => (position + n / count * i) % n

theorem frame_eq (s : Chase) (n : Nat) :
    s.frame n = (Frame.blank n).paint s.color (spots n s.count s.position) := by
  simp [frame, Frame.paint, spots, List.foldl_map]

theorem spots_lt {n count position i : Nat} (hn : 0 < n) (hi : i ∈ spots n count position) :
    i < n := by
  obtain ⟨t, -, rfl⟩ := List.mem_map.mp hi
  exact Nat.mod_lt _ hn

/-- More points than LEDs all stand on the same one. -/
theorem mem_spots_of_lt {n count position i : Nat} (h : n < count) :
    i ∈ spots n count position ↔ i = position % n := by
  constructor
  · intro hi
    obtain ⟨t, -, rfl⟩ := List.mem_map.mp hi
    rw [Nat.div_eq_of_lt h, Nat.zero_mul, Nat.add_zero]
  · rintro rfl
    exact List.mem_map.mpr ⟨0, List.mem_range.mpr (by omega), by rw [Nat.mul_zero, Nat.add_zero]⟩

theorem paint_spots_congr {n a b position : Nat} (hn : 0 < n) (hn63 : 3 * n < 2 ^ 63)
    (h : SameUpTo n a b) (c : Rgb) :
    (Frame.blank n).paint c (spots n a position) =
      (Frame.blank n).paint c (spots n b position) := by
  obtain rfl | ⟨ha, hb⟩ := h
  · rfl
  · exact Frame.paint_congr (fun i hi => Frame.has_blank hn63 (spots_lt hn hi))
      (fun i => (mem_spots_of_lt ha).trans (mem_spots_of_lt hb).symm) c

end Chase

/-! ### Wave -/

namespace Wave

/-- The LEDs that are on: `width` of them in a row from a position on. -/
def band (n width position : Nat) : List Nat :=
  (List.range width).map fun i => (position + i) % n

/-- Positions of a wave that is no wider than a word do not wrap. -/
theorem frame_eq {s : Wave} {n : Nat} (h : s.position + s.width ≤ 2 ^ 64) :
    s.frame n = (Frame.blank n).paint s.color (band n s.width s.position) := by
  have hahead : ∀ i ∈ List.range s.width, s.ahead n i = (s.position + i) % n := fun i hi => by
    rw [ahead, Nat.mod_eq_of_lt (b := 2 ^ 64) (by have := List.mem_range.mp hi; omega)]
  rw [band, ← List.map_congr_left hahead, Frame.paint, List.foldl_map, frame]

theorem band_lt {n width position i : Nat} (hn : 0 < n) (hi : i ∈ band n width position) :
    i < n := by
  obtain ⟨t, -, rfl⟩ := List.mem_map.mp hi
  exact Nat.mod_lt _ hn

/-- From everywhere on a ring, every place is less than a round ahead. -/
theorem exists_ahead {n i : Nat} (hi : i < n) (position : Nat) :
    ∃ j < n, (position + j) % n = i := by
  have hn : 0 < n := Nat.zero_lt_of_lt hi
  have hle : position % n ≤ n := Nat.le_of_lt (Nat.mod_lt position hn)
  refine ⟨(i + (n - position % n)) % n, Nat.mod_lt _ hn, ?_⟩
  calc (position + (i + (n - position % n)) % n) % n
      = (position % n + (i + (n - position % n))) % n := by rw [Nat.add_mod_mod, Nat.mod_add_mod]
    _ = (i + n) % n := by rw [show position % n + (i + (n - position % n)) = i + n by omega]
    _ = i := by rw [Nat.add_mod_right, Nat.mod_eq_of_lt hi]

/-- A band as wide as the strip covers it. -/
theorem mem_band_of_le {n width i : Nat} (hn : 0 < n) (h : n ≤ width) (position : Nat) :
    i ∈ band n width position ↔ i < n := by
  refine ⟨band_lt hn, fun hi => List.mem_map.mpr ?_⟩
  obtain ⟨j, hj, hsame⟩ := exists_ahead hi position
  exact ⟨j, List.mem_range.mpr (by omega), hsame⟩

theorem paint_band_congr {n a b position : Nat} (hn : 0 < n) (hn63 : 3 * n < 2 ^ 63)
    (h : SameUpTo n a b) (c : Rgb) :
    (Frame.blank n).paint c (band n a position) = (Frame.blank n).paint c (band n b position) := by
  obtain rfl | ⟨ha, hb⟩ := h
  · rfl
  · have ha := fun i => mem_band_of_le (i := i) hn (Nat.le_of_lt ha) position
    have hb := fun i => mem_band_of_le (i := i) hn (Nat.le_of_lt hb) position
    exact Frame.paint_congr (fun i hi => Frame.has_blank hn63 (band_lt hn hi))
      (fun i => (ha i).trans (hb i).symm) c

end Wave
end LedStrip
