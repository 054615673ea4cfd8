import LedStrip.Proofs.Effect.Painting
import LedStrip.Proofs.Frame.Pixels

/-!
# Strokes on a frame

A stroke paints one LED or all of them.  `getElem?_apply` says what a stroke does to every byte, and
`get?_after` what a list of strokes leaves: an LED has the color of the last stroke that gave it one.

Offsets of strokes are words, and `3 * i` may wrap.  An index far beyond the frame can so come to
stand on bytes inside it, often across two LEDs (`Stray`).  Reading does not wrap, so that the LED
which was painted cannot be read back there.  No stroke with a stray index is covered by the law, and
without one all of it holds (`strokes_by_last`).
-/

namespace LedStrip
namespace Frame

inductive Stroke where
  /-- Paint one LED. -/
  | set (i : Nat) (c : Rgb)
  /-- Paint all LEDs. -/
  | fill (c : Rgb)
deriving DecidableEq

/-- An index that is no LED of a frame, while its offset is one in the frame. -/
def Stray (f : Frame) (i : Nat) : Prop := f.ledCount ≤ i ∧ 3 * i % 2 ^ 64 + 3 ≤ f.size

instance (f : Frame) (i : Nat) : Decidable (f.Stray i) :=
  inferInstanceAs (Decidable (_ ∧ _))

namespace Stroke

def apply (f : Frame) : Stroke → Frame
  | set i c => f.set i c
  | fill c => f.fill c

/-- The color that a stroke gives an LED. -/
def color? (led : Nat) : Stroke → Option Rgb
  | set i c => if i = led then some c else none
  | fill c => some c

/-- The index of the stroke is not stray. -/
def Stays (f : Frame) : Stroke → Prop
  | set i _ => ¬ f.Stray i
  | fill _ => True

instance (f : Frame) : DecidablePred (Stays f)
  | set i _ => inferInstanceAs (Decidable (¬ f.Stray i))
  | fill _ => inferInstanceAs (Decidable True)

end Stroke

/-- The frame after some strokes, in order. -/
def after (f : Frame) (strokes : List Stroke) : Frame := strokes.foldl Stroke.apply f

/-- The last color that some strokes give an LED. -/
def lastColor? (led : Nat) (strokes : List Stroke) : Option Rgb :=
  (strokes.filterMap (Stroke.color? led)).getLast?

variable {f : Frame} {i j : Nat} {s : Stroke} {strokes : List Stroke}

/-! ### Sizes -/

@[simp] theorem size_apply (f : Frame) (s : Stroke) : (s.apply f).size = f.size := by
  cases s with
  | set i c => exact size_set f i c
  | fill c => exact size_fill f c

theorem after_concat (f : Frame) (strokes : List Stroke) (s : Stroke) :
    f.after (strokes ++ [s]) = s.apply (f.after strokes) := by
  simp [after]

@[simp] theorem size_after (f : Frame) (strokes : List Stroke) :
    (f.after strokes).size = f.size := by
  induction strokes using List.reverseRecOn with
  | nil => rfl
  | append_singleton strokes s ih => rw [after_concat, size_apply, ih]

theorem ledCount_after (f : Frame) (strokes : List Stroke) :
    (f.after strokes).ledCount = f.ledCount := congrArg (· / 3) (size_after f strokes)

/-- What is stray depends on the size only. -/
theorem Stroke.Stays.of_size {g : Frame} (h : s.Stays f) (hg : g.size = f.size) : s.Stays g := by
  cases s with
  | set i c =>
    have hcount : g.ledCount = f.ledCount := congrArg (· / 3) hg
    rwa [Stroke.Stays, Stray, hcount, hg]
  | fill c => trivial

/-! ### Indices beyond the frame -/

theorem set_of_not_stray (hi : f.ledCount ≤ i) (h : ¬ f.Stray i) (c : Rgb) : f.set i c = f := by
  have hout : ¬ 3 * i % 2 ^ 64 + 3 ≤ f.size := fun hin => h ⟨hi, hin⟩
  rw [set, write, if_neg hout]

/-- A stray index changes the frame, for some color. -/
theorem exists_set_ne (h : f.Stray i) : ∃ c, f.set i c ≠ f := by
  obtain ⟨-, hin⟩ := h
  have hlt : 3 * i % 2 ^ 64 < f.bytes.size := Nat.lt_of_lt_of_le (by omega) hin
  obtain ⟨b, hb⟩ : ∃ b : UInt8, f.bytes[3 * i % 2 ^ 64]? = some b :=
    ⟨_, Array.getElem?_eq_getElem hlt⟩
  refine ⟨⟨b + 1, 0, 0⟩, fun hsame => ?_⟩
  have hwritten : (f.set i ⟨b + 1, 0, 0⟩).bytes[3 * i % 2 ^ 64]? = some (b + 1) := by
    simp [set, write, hin, hlt]
  rw [hsame, hb] at hwritten
  simp at hwritten

/-- **What lies beyond the frame is ignored** exactly if it is not stray. -/
theorem set_eq_self_iff (hi : f.ledCount ≤ i) : (∀ c, f.set i c = f) ↔ ¬ f.Stray i := by
  refine ⟨fun h hstray => ?_, set_of_not_stray hi⟩
  obtain ⟨c, hc⟩ := exists_set_ne hstray
  exact hc (h c)

/-! ### Bytes after a stroke -/

/-- **Every byte after a stroke**: those of the LEDs that the stroke colors have the channels of the
color, all others are as they were. -/
theorem getElem?_apply (hsize : f.size < 2 ^ 64) (hs : s.Stays f) (j : Nat) :
    (s.apply f).bytes[j]? =
      if j < 3 * f.ledCount then
        ((s.color? (j / 3)).map fun c => channelAt c (j % 3)).or f.bytes[j]?
      else f.bytes[j]? := by
  have hcount : 3 * f.ledCount ≤ f.bytes.size := Nat.mul_div_le f.size 3
  cases s with
  | set i c =>
    rw [Stroke.apply, Stroke.color?]
    rcases Nat.lt_or_ge i f.ledCount with hi | hi
    · rw [getElem?_set_of_le hsize (by rw [ledCount] at hi; omega)]
      by_cases hij : i = j / 3
      · rw [if_pos hij.symm, if_pos hij, if_pos (by omega)]
        rfl
      · rw [if_neg (Ne.symm hij), if_neg hij]
        simp
    · rw [set_of_not_stray hi hs]
      by_cases hj : j < 3 * f.ledCount
      · rw [if_pos hj, if_neg (by omega)]
        rfl
      · rw [if_neg hj]
  | fill c =>
    rw [Stroke.apply, Stroke.color?, getElem?_fill]
    by_cases hj : j < 3 * f.ledCount
    · simp [hj, show j < f.bytes.size by omega]
    · simp [hj]

/-- The color of an LED after a stroke. -/
theorem get?_apply (hsize : f.size < 2 ^ 64) (hs : s.Stays f) (hi : i < f.ledCount) :
    (s.apply f).get? i = (s.color? i).or (f.get? i) := by
  have hdiv : 3 * i / 3 = i ∧ (3 * i + 1) / 3 = i ∧ (3 * i + 2) / 3 = i := by omega
  have hmod : 3 * i % 3 = 0 ∧ (3 * i + 1) % 3 = 1 ∧ (3 * i + 2) % 3 = 2 := by omega
  have hlt : 3 * i < 3 * f.ledCount ∧ 3 * i + 1 < 3 * f.ledCount ∧ 3 * i + 2 < 3 * f.ledCount := by
    omega
  simp only [get?, getElem?_apply hsize hs, hdiv, hmod, hlt, if_true]
  cases s.color? i with
  | none => rfl
  | some c => rfl

/-! ### Bytes after many strokes -/

section Many

variable (hsize : f.size < 2 ^ 64) (hstays : ∀ s ∈ strokes, s.Stays f)

include hsize hstays

/-- **The last stroke decides.** -/
theorem get?_after (hi : i < f.ledCount) :
    (f.after strokes).get? i = (lastColor? i strokes).or (f.get? i) := by
  induction strokes using List.reverseRecOn with
  | nil => rfl
  | append_singleton strokes s ih =>
    have hs : s.Stays (f.after strokes) :=
      (hstays s (by simp)).of_size (size_after f strokes)
    have hlast : lastColor? i (strokes ++ [s]) = (s.color? i).or (lastColor? i strokes) := by
      rw [lastColor?, List.filterMap_append, List.getLast?_append]
      cases hc : s.color? i <;> simp [hc, lastColor?]
    rw [after_concat, get?_apply (by rwa [size_after]) hs (by rwa [ledCount_after]),
      ih fun s hs => hstays s (List.mem_append_left _ hs), hlast, Option.or_assoc]

/-- Bytes that belong to no LED stay. -/
theorem getElem?_after_of_le (hj : 3 * f.ledCount ≤ j) :
    (f.after strokes).bytes[j]? = f.bytes[j]? := by
  induction strokes using List.reverseRecOn with
  | nil => rfl
  | append_singleton strokes s ih =>
    have hs : s.Stays (f.after strokes) :=
      (hstays s (by simp)).of_size (size_after f strokes)
    rw [after_concat, getElem?_apply (by rwa [size_after]) hs,
      if_neg (by rw [ledCount_after]; omega), ih fun s hs => hstays s (List.mem_append_left _ hs)]

end Many

/-! ### Frames under strokes -/

/-- What is read of a frame as a whole is what is read of one LED after the other. -/
structure ShowsLeds (g : Frame) (ledCount : Nat) : Prop where
  ledCount_eq : g.ledCount = ledCount
  nothing : ∀ i, ledCount ≤ i → g.get? i = none
  pixels : g.pixels.map some = (List.range ledCount).map g.get?
  lit : g.lit = (List.range ledCount).filter fun i => g.get? i ≠ some Rgb.black
  toHex : g.toHex =
    " ".intercalate ((List.range ledCount).filterMap fun i => (g.get? i).map Rgb.toHex)

theorem showsLeds (g : Frame) : g.ShowsLeds g.ledCount where
  ledCount_eq := rfl
  nothing _ := get?_of_le
  pixels := map_some_pixels g
  lit := by
    rw [lit_eq]
    refine List.filter_congr fun i hi => ?_
    obtain ⟨c, hc⟩ : ∃ c, g.get? i = some c :=
      exists_get?_eq (by have := List.mem_range.mp hi; rw [ledCount] at this; omega)
    by_cases hblack : c = Rgb.black <;> simp [hc, Rgb.isLit, hblack]
  toHex := by rw [Frame.toHex, pixels_eq, List.map_filterMap]

end Frame
end LedStrip
