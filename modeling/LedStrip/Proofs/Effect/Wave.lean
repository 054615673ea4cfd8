import Mathlib.Data.List.Nodup
import Mathlib.Data.List.Perm.Subperm
import Mathlib.Data.Nat.ModEq
import LedStrip.Proofs.Effect.Painting
import LedStrip.Proofs.Frame.Pixels

/-!
# Frames of a wave

Frame `t` of a wave paints the LEDs of `Wave.band` from `t` places behind its position on, and
nothing else (`frameAt_eq`).  A position only counts up to full rounds (`band_congr`), so that the
frames repeat; a band as wide as the strip is the whole strip, and a narrower one meets no LED twice
(`mem_band_min`, `nodup_band`).  Positions are words; `Wave.Fits` is what keeps them from wrapping,
and it is kept by every tick.
-/

namespace LedStrip

namespace Frame

variable {n : Nat} {c : Rgb} {leds : List Nat}

/-- On a dark strip the LEDs that are painted in a lit color are those that are lit. -/
theorem mem_lit_paint_blank (hn : 3 * n < 2 ^ 64) (h : ∀ i ∈ leds, i < n) (hc : c.isLit = true)
    (i : Nat) : i ∈ ((blank n).paint c leds).lit ↔ i ∈ leds := by
  have hdark : Rgb.black.isLit = false := by decide
  rw [lit_eq, List.mem_filter, List.mem_range, ledCount_paint_blank hn, get?_paint_blank hn h]
  by_cases hi : i ∈ leds
  · simp [hi, h i hi, hc]
  · by_cases hin : i < n <;> simp [hi, hin, hdark]

theorem nodup_lit (f : Frame) : f.lit.Nodup := by
  rw [lit_eq]
  exact List.nodup_range.filter _

end Frame

namespace Wave

variable {n w p q i : Nat}

/-! ### Bands -/

@[simp] theorem length_band (n w p : Nat) : (band n w p).length = w := by simp [band]

/-- Only the place on the strip counts, not the rounds before. -/
theorem band_congr (h : p % n = q % n) (w : Nat) : band n w p = band n w q := by
  simp only [band, Nat.add_mod p, Nat.add_mod q, h]

/-- A band that is no wider than the strip consists of different LEDs. -/
theorem nodup_band (h : w ≤ n) (p : Nat) : (band n w p).Nodup := by
  refine List.Nodup.map_on (fun i hi j hj hsame => ?_) List.nodup_range
  have hi := List.mem_range.mp hi
  have hj := List.mem_range.mp hj
  have hmod : i ≡ j [MOD n] := Nat.ModEq.add_left_cancel' p hsame
  exact hmod.eq_of_lt_of_lt (by omega) (by omega)

/-- What is wider than the strip covers it, as a band as wide as the strip does. -/
theorem mem_band_min (hn : 0 < n) : i ∈ band n (min w n) p ↔ i ∈ band n w p := by
  rcases Nat.le_total w n with h | h
  · rw [Nat.min_eq_left h]
  · rw [Nat.min_eq_right h, mem_band_of_le hn le_rfl, mem_band_of_le hn h]

/-! ### One tick after another -/

/-- The wave after some ticks. -/
def after (s : Wave) (n : Nat) : Nat → Wave
  | 0 => s
  | t + 1 => ((s.after n t).tick n).2

/-- The frame of tick number `t`, counted from zero. -/
def frameAt (s : Wave) (n t : Nat) : Frame := ((s.after n t).tick n).1

/-- A wave whose LEDs are counted without wrapping, at its position and at those to come. -/
structure Fits (n : Nat) (s : Wave) : Prop where
  position_lt : s.position + s.width < 2 ^ 64 - 1
  count_lt : n + s.width < 2 ^ 64 - 1

variable {s : Wave}

theorem tick_eq (h : s.Fits n) (hn : 0 < n) :
    s.tick n = ((Frame.blank n).paint s.color (band n s.width s.position),
      s.withPosition ((s.position + 1) % n)) := by
  have hposition := h.position_lt
  have hword : (s.position + 1) % 2 ^ 64 = s.position + 1 := Nat.mod_eq_of_lt (by omega)
  rw [tick, if_neg hn.ne', frame_eq (by omega), ahead, hword]
  rfl

theorem Fits.at_mod (h : s.Fits n) (hn : 0 < n) (p : Nat) : (s.withPosition (p % n)).Fits n where
  position_lt := by
    have hcount := h.count_lt
    have hlt : p % n < n := Nat.mod_lt p hn
    show p % n + s.width < 2 ^ 64 - 1
    omega
  count_lt := h.count_lt

/-- A tick takes a wave one LED on, and into the strip if it was not there. -/
theorem after_succ_eq (h : s.Fits n) (hn : 0 < n) (t : Nat) :
    s.after n (t + 1) = s.withPosition ((s.position + (t + 1)) % n) := by
  induction t with
  | zero => rw [after, after, tick_eq h hn]
  | succ t ih =>
    have hnext : ((s.position + (t + 1)) % n + 1) % n = (s.position + (t + 1 + 1)) % n := by
      rw [Nat.mod_add_mod, Nat.add_assoc]
    rw [after, ih, tick_eq (h.at_mod hn _) hn, ← hnext]
    rfl

theorem frameAt_eq (h : s.Fits n) (hn : 0 < n) (t : Nat) :
    s.frameAt n t = (Frame.blank n).paint s.color (band n s.width (s.position + t)) := by
  cases t with
  | zero => exact congrArg Prod.fst (tick_eq h hn)
  | succ t =>
    rw [frameAt, after_succ_eq h hn, tick_eq (h.at_mod hn _) hn]
    exact congrArg _ (band_congr (Nat.mod_mod _ n) s.width)

/-- **The frames of a wave.**  `Wave.band n w p` are the LEDs `(p + i) % n` for `i < w`.

* Every tick has a frame of the strip's size.  Frame `t` shows the color at the LEDs of the band
  from the position plus `t` on and is dark elsewhere, and after it the position is on the strip.
* These LEDs are a run of as many different ones as the wave is wide and the strip has, from the
  place of that position on; with a color that is not dark they are the LEDs that are lit.
* Full rounds before the first frame make no difference, and after a round the frames are the
  same. -/
theorem wave_frames {R : Type} [Scalar R] (s : Wave) {n : Nat} (hn : 1 ≤ n)
    (hposition : s.position + s.width < 2 ^ 64 - 1) (hcount : n + s.width < 2 ^ 64 - 1)
    (hsize : 3 * n < 2 ^ 64 - 1) :
    (∀ t, Effect.onTick R (s.after n t) n = (.ok (s.frameAt n t), s.after n (t + 1)) ∧
        (s.frameAt n t).size = 3 * n ∧
        (∀ i < n, (s.frameAt n t).get? i =
          some (if i ∈ band n s.width (s.position + t) then s.color else Rgb.black)) ∧
        (s.after n (t + 1)).position < n) ∧
      (∀ t, let run := band n (min s.width n) ((s.position + t) % n)
        run.length = min s.width n ∧ run.Nodup ∧
          (∀ i, i ∈ band n s.width (s.position + t) ↔ i ∈ run) ∧
          (s.color.isLit = true → (s.frameAt n t).lit.Perm run)) ∧
      (∀ t, (s.withPosition (s.position % n)).frameAt n t = s.frameAt n t) ∧
      ∀ t, s.frameAt n (t + n) = s.frameAt n t := by
  have hfits : s.Fits n := ⟨hposition, hcount⟩
  have hbytes : 3 * n < 2 ^ 64 := by omega
  have hon : ∀ t, ∀ i ∈ band n s.width (s.position + t), i < n := fun t i => band_lt hn
  have hrun : ∀ t i, i ∈ band n s.width (s.position + t) ↔
      i ∈ band n (min s.width n) ((s.position + t) % n) := fun t i => by
    rw [mem_band_min hn, band_congr (Nat.mod_mod _ n) s.width]
  have hnodup : ∀ t, (band n (min s.width n) ((s.position + t) % n)).Nodup := fun t =>
    nodup_band (Nat.min_le_right _ _) _
  refine ⟨fun t => ⟨rfl, ?_, fun i hi => ?_, ?_⟩,
    fun t => ⟨length_band n _ _, hnodup t, hrun t, fun hlit => ?_⟩, fun t => ?_, fun t => ?_⟩
  · rw [frameAt_eq hfits hn, Frame.size_paint, Frame.size_blank, Frame.byteCount,
      Nat.mod_eq_of_lt hbytes]
  · rw [frameAt_eq hfits hn, Frame.get?_paint_blank hbytes (hon t), if_pos hi]
    split <;> rfl
  · rw [after_succ_eq hfits hn]
    exact Nat.mod_lt _ hn
  · refine (List.perm_ext_iff_of_nodup (Frame.nodup_lit _) (hnodup t)).mpr fun i => ?_
    rw [frameAt_eq hfits hn, Frame.mem_lit_paint_blank hbytes (hon t) hlit, hrun]
  · rw [frameAt_eq (hfits.at_mod hn s.position) hn, frameAt_eq hfits hn]
    exact congrArg _ (band_congr (Nat.mod_add_mod s.position n t) s.width)
  · have hround : (s.position + (t + n)) % n = (s.position + t) % n := by
      rw [← Nat.add_assoc, Nat.add_mod_right]
    rw [frameAt_eq hfits hn, frameAt_eq hfits hn, band_congr hround]

/-- Five LEDs from the eighteenth of twenty on go over the end of the strip. -/
theorem five_from_seventeen :
    let s : Wave := Wave.withPosition ⟨Wave.defaultColor, 5, 0⟩ 17
    s.position + s.width < 2 ^ 64 - 1 ∧ (s.frameAt 20 0).get? 1 = some Wave.defaultColor ∧
      (s.frameAt 20 0).get? 2 = some .black ∧ (s.frameAt 20 0).lit.Perm [17, 18, 19, 0, 1] ∧
      s.frameAt 20 20 = s.frameAt 20 0 := by
  intro s
  obtain ⟨hframes, hruns, -, hrounds⟩ :=
    wave_frames (R := Rat) s (n := 20) (by decide) (by decide) (by decide) (by decide)
  obtain ⟨-, -, hshown, -⟩ := hframes 0
  obtain ⟨-, -, -, hlit⟩ := hruns 0
  have hrun : band 20 (min s.width 20) ((s.position + 0) % 20) = [17, 18, 19, 0, 1] := by decide
  have hon : 1 ∈ band 20 s.width (s.position + 0) := by decide
  have hoff : 2 ∉ band 20 s.width (s.position + 0) := by decide
  refine ⟨by decide, ?_, ?_, hrun ▸ hlit (by decide), hrounds 0⟩
  · rw [hshown 1 (by decide), if_pos hon]
    rfl
  · rw [hshown 2 (by decide), if_neg hoff]

end Wave
end LedStrip
