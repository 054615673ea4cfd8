import Mathlib.Tactic.FieldSimp
import Mathlib.Tactic.NormNum
import LedStrip.Color
import LedStrip.Proofs.Number.Rational

/-!
# Colors by hue

The conversion of a color from hue, saturation and value goes through six parts of a turn, with
another order of the channels in each.  It comes to one formula for all of them: along the wheel a
channel gives up saturation in the shape of a trapezoid (`loss`), and the three channels are a third
of a turn apart (`hsvChannels_eq`).  At every place one channel gives up nothing and one gives up
all, so the value is the largest channel and what the saturation leaves of it the smallest
(`max_hsvChannel`, `min_hsvChannel`).  Numbers are exact here.
-/

namespace LedStrip
namespace Rgb

/-! ### The wheel -/

/-- A place on the wheel, which has six parts. -/
def onWheel (x : Rat) : Rat := x - 6 * ⌊x / 6⌋

/-- The part of the saturation that a channel gives up at a place: all of it from the first mark to
the third, and none in the last two parts. -/
def loss (k : Rat) : Rat := max 0 (min k (min (4 - k) 1))

/-- A channel before rounding, by how many parts it is ahead of the hue. -/
def hsvChannel (ahead h s v : Rat) : Rat := v - v * s * loss (onWheel (ahead + h / 60))

theorem onWheel_add_turns (x : Rat) (n : Int) : onWheel (x + 6 * n) = onWheel x :=
  Scalar.sub_mul_floor_add (by norm_num) x n

theorem loss_nonneg (k : Rat) : 0 ≤ loss k := le_max_left _ _

theorem loss_le_one (k : Rat) : loss k ≤ 1 :=
  max_le zero_le_one ((min_le_right _ _).trans (min_le_right _ _))

section Parts

variable {x a : Rat} {n : Int} (ha : a = 6 * n)

include ha

theorem onWheel_eq (h0 : a ≤ x) (h1 : x < a + 6) : onWheel x = x - a := by
  rw [ha] at h0 h1 ⊢
  exact Scalar.sub_mul_floor_eq (by norm_num) (by linarith) (by linarith)

theorem loss_rising (h0 : a ≤ x) (h1 : x ≤ a + 1) : loss (onWheel x) = x - a := by
  have hleft : x - a ≤ min (4 - (x - a)) 1 := le_min (by linarith) (by linarith)
  rw [onWheel_eq ha h0 (by linarith), loss, min_eq_left hleft, max_eq_right (by linarith)]

theorem loss_top (h0 : a + 1 ≤ x) (h1 : x ≤ a + 3) : loss (onWheel x) = 1 := by
  rw [onWheel_eq ha (by linarith) (by linarith), loss,
    min_eq_right (show (1 : Rat) ≤ 4 - (x - a) by linarith), min_eq_right (by linarith),
    max_eq_right zero_le_one]

theorem loss_falling (h0 : a + 3 ≤ x) (h1 : x ≤ a + 4) : loss (onWheel x) = 4 - (x - a) := by
  rw [onWheel_eq ha (by linarith) (by linarith), loss,
    min_eq_left (show 4 - (x - a) ≤ 1 by linarith), min_eq_right (by linarith),
    max_eq_right (by linarith)]

theorem loss_bottom (h0 : a + 4 ≤ x) (h1 : x < a + 6) : loss (onWheel x) = 0 := by
  rw [onWheel_eq ha (by linarith) h1, loss,
    min_eq_left (show 4 - (x - a) ≤ 1 by linarith), min_eq_right (by linarith),
    max_eq_left (by linarith)]

end Parts

/-! ### The conversion -/

section Ramp

variable {t a : Rat} {j : Int} (ha : a = 2 * j) (hj : 0 ≤ j)

include ha hj

/-- The channel between the other two goes up in every other part and down in the rest. -/
theorem ramp_up (h0 : a ≤ t) (h1 : t ≤ a + 1) :
    1 - Scalar.abs (Scalar.rem t 2 - 1) = t - a := by
  have ht : 0 ≤ t := (ha ▸ mul_nonneg zero_le_two (Int.cast_nonneg hj) : 0 ≤ a).trans h0
  rw [ha] at h0 h1 ⊢
  rw [Scalar.abs_rat, Scalar.rem_rat_of_nonneg ht two_pos,
    Scalar.sub_mul_floor_eq (k := j) two_pos (by linarith) (by linarith),
    abs_of_nonpos (by linarith)]
  ring

theorem ramp_down (h0 : a + 1 ≤ t) (h1 : t < a + 2) :
    1 - Scalar.abs (Scalar.rem t 2 - 1) = a + 2 - t := by
  have ht : 0 ≤ t := by
    have : 0 ≤ a := ha ▸ mul_nonneg zero_le_two (Int.cast_nonneg hj)
    linarith
  rw [ha] at h0 h1 ⊢
  rw [Scalar.abs_rat, Scalar.rem_rat_of_nonneg ht two_pos,
    Scalar.sub_mul_floor_eq (k := j) two_pos (by linarith) (by linarith),
    abs_of_nonneg (by linarith)]
  ring

end Ramp

/-- Six parts of a turn with the channels in another order in each, for a hue in parts. -/
def channelsAt (t s v : Rat) : Rat × Rat × Rat :=
  let c := v * s
  let x := c * (1 - Scalar.abs (Scalar.rem t 2 - 1))
  let m := v - c
  if t < 1 then (c + m, x + m, 0 + m)
  else if t < 2 then (x + m, c + m, 0 + m)
  else if t < 3 then (0 + m, c + m, x + m)
  else if t < 4 then (0 + m, x + m, c + m)
  else if t < 5 then (x + m, 0 + m, c + m)
  else (c + m, 0 + m, x + m)

theorem channelsAt_eq {t : Rat} (h0 : 0 ≤ t) (h6 : t < 6) (s v : Rat) :
    channelsAt t s v = (v - v * s * loss (onWheel (5 + t)), v - v * s * loss (onWheel (3 + t)),
      v - v * s * loss (onWheel (1 + t))) := by
  -- the trapezoid of a channel starts on the first turn or on the next one
  have first : (0 : Rat) = 6 * (0 : Int) := by norm_num
  have next : (6 : Rat) = 6 * (1 : Int) := by norm_num
  have zero : (0 : Rat) = 2 * (0 : Int) := by norm_num
  have two : (2 : Rat) = 2 * (1 : Int) := by norm_num
  have four : (4 : Rat) = 2 * (2 : Int) := by norm_num
  unfold channelsAt
  rcases lt_or_ge t 1 with h1 | h1
  · rw [if_pos h1, ramp_up zero le_rfl h0 (by linarith),
      loss_bottom first (x := 5 + t) (by linarith) (by linarith),
      loss_falling first (x := 3 + t) (by linarith) (by linarith),
      loss_top first (x := 1 + t) (by linarith) (by linarith)]
    ext <;> ring
  rw [if_neg (not_lt.mpr h1)]
  rcases lt_or_ge t 2 with h2 | h2
  · rw [if_pos h2, ramp_down zero le_rfl (by linarith) (by linarith),
      loss_rising next (x := 5 + t) (by linarith) (by linarith),
      loss_bottom first (x := 3 + t) (by linarith) (by linarith),
      loss_top first (x := 1 + t) (by linarith) (by linarith)]
    ext <;> ring
  rw [if_neg (not_lt.mpr h2)]
  rcases lt_or_ge t 3 with h3 | h3
  · rw [if_pos h3, ramp_up two zero_le_one h2 (by linarith),
      loss_top next (x := 5 + t) (by linarith) (by linarith),
      loss_bottom first (x := 3 + t) (by linarith) (by linarith),
      loss_falling first (x := 1 + t) (by linarith) (by linarith)]
    ext <;> ring
  rw [if_neg (not_lt.mpr h3)]
  rcases lt_or_ge t 4 with h4 | h4
  · rw [if_pos h4, ramp_down two zero_le_one (by linarith) (by linarith),
      loss_top next (x := 5 + t) (by linarith) (by linarith),
      loss_rising next (x := 3 + t) (by linarith) (by linarith),
      loss_bottom first (x := 1 + t) (by linarith) (by linarith)]
    ext <;> ring
  rw [if_neg (not_lt.mpr h4)]
  rcases lt_or_ge t 5 with h5 | h5
  · rw [if_pos h5, ramp_up four zero_le_two h4 (by linarith),
      loss_falling next (x := 5 + t) (by linarith) (by linarith),
      loss_top next (x := 3 + t) (by linarith) (by linarith),
      loss_bottom first (x := 1 + t) (by linarith) (by linarith)]
    ext <;> ring
  · rw [if_neg (not_lt.mpr h5), ramp_down four zero_le_two (by linarith) (by linarith),
      loss_bottom next (x := 5 + t) (by linarith) (by linarith),
      loss_top next (x := 3 + t) (by linarith) (by linarith),
      loss_rising next (x := 1 + t) (by linarith) (by linarith)]
    ext <;> ring

/-- A hue in degrees goes around once in 360. -/
theorem hsvChannels_eq_channelsAt (h s v : Rat) :
    hsvChannels h s v = channelsAt (h / 60 - 6 * ⌊h / 360⌋) s v := by
  have hparts : (h - 360 * ⌊h / 360⌋) / 60 = h / 60 - 6 * ⌊h / 360⌋ := by ring
  have hbound : ∀ k : Rat, h - 360 * ⌊h / 360⌋ < 60 * k ↔ h / 60 - 6 * ⌊h / 360⌋ < k := fun k => by
    rw [← hparts, div_lt_iff₀ (by norm_num), mul_comm k]
  have hfloor : Scalar.floorMod h 360 = h - 360 * ⌊h / 360⌋ := Scalar.floorMod_rat (by norm_num) h
  have h1 := hbound 1
  have h2 := hbound 2
  have h3 := hbound 3
  have h4 := hbound 4
  have h5 := hbound 5
  norm_num at h1 h2 h3 h4 h5
  unfold hsvChannels channelsAt
  simp only [Scalar.ofNat_rat, Nat.cast_ofNat, Int.cast_ofNat, Nat.cast_one, Int.cast_one,
    Nat.cast_zero, Int.cast_zero, hfloor, hparts, h1, h2, h3, h4, h5]
  split_ifs <;> rfl

/-- **One formula for all parts of the turn.** -/
theorem hsvChannels_eq (h s v : Rat) :
    hsvChannels h s v = (hsvChannel 5 h s v, hsvChannel 3 h s v, hsvChannel 1 h s v) := by
  obtain ⟨h0, h360⟩ := Scalar.sub_mul_floor_mem (y := 360) (by norm_num) h
  have hplace : ∀ ahead, onWheel (ahead + (h / 60 - 6 * ⌊h / 360⌋)) = onWheel (ahead + h / 60) :=
    fun ahead => by
      rw [← onWheel_add_turns _ ⌊h / 360⌋, add_assoc, sub_add_cancel]
  rw [hsvChannels_eq_channelsAt, channelsAt_eq (by linarith) (by linarith)]
  simp only [hplace, hsvChannel]

theorem hsvChannel_add_turns (ahead h s v : Rat) (n : Int) :
    hsvChannel ahead (h + 360 * n) s v = hsvChannel ahead h s v := by
  have hplace : ahead + (h + 360 * n) / 60 = ahead + h / 60 + 6 * n := by ring
  rw [hsvChannel, hplace, onWheel_add_turns, hsvChannel]

/-! ### The largest and the smallest channel -/

/-- In each third of the wheel another channel keeps all of its saturation. -/
theorem loss_eq_zero_cases (x : Rat) :
    loss (onWheel (5 + x)) = 0 ∨ loss (onWheel (3 + x)) = 0 ∨ loss (onWheel (1 + x)) = 0 := by
  obtain ⟨h0, h6⟩ := Scalar.sub_mul_floor_mem (y := 6) (by norm_num) x
  have first : 6 * (⌊x / 6⌋ : Rat) = 6 * (⌊x / 6⌋ : Int) := rfl
  have next : 6 * (⌊x / 6⌋ : Rat) + 6 = 6 * (⌊x / 6⌋ + 1 : Int) := by push_cast; ring
  rcases lt_or_ge (x - 6 * ⌊x / 6⌋) 1 with h1 | h1
  · exact .inl (loss_bottom first (by linarith) (by linarith))
  rcases lt_or_ge (x - 6 * ⌊x / 6⌋) 3 with h3 | h3
  · exact .inr (.inl (loss_bottom first (by linarith) (by linarith)))
  rcases lt_or_ge (x - 6 * ⌊x / 6⌋) 5 with h5 | h5
  · exact .inr (.inr (loss_bottom first (by linarith) (by linarith)))
  · exact .inl (loss_bottom next (by linarith) (by linarith))

/-- In each third of the wheel, half a third later, another channel gives up all of it. -/
theorem loss_eq_one_cases (x : Rat) :
    loss (onWheel (5 + x)) = 1 ∨ loss (onWheel (3 + x)) = 1 ∨ loss (onWheel (1 + x)) = 1 := by
  obtain ⟨h0, h6⟩ := Scalar.sub_mul_floor_mem (y := 6) (by norm_num) x
  have first : 6 * (⌊x / 6⌋ : Rat) = 6 * (⌊x / 6⌋ : Int) := rfl
  have next : 6 * (⌊x / 6⌋ : Rat) + 6 = 6 * (⌊x / 6⌋ + 1 : Int) := by push_cast; ring
  rcases lt_or_ge (x - 6 * ⌊x / 6⌋) 2 with h2 | h2
  · exact .inr (.inr (loss_top first (by linarith) (by linarith)))
  rcases lt_or_ge (x - 6 * ⌊x / 6⌋) 4 with h4 | h4
  · exact .inl (loss_top next (by linarith) (by linarith))
  · exact .inr (.inl (loss_top next (by linarith) (by linarith)))

section Range

variable {s v : Rat} (hs : 0 ≤ s) (hv : 0 ≤ v) (ahead h : Rat)

include hs hv

theorem hsvChannel_le : hsvChannel ahead h s v ≤ v :=
  sub_le_self v (mul_nonneg (mul_nonneg hv hs) (loss_nonneg _))

theorem le_hsvChannel : v * (1 - s) ≤ hsvChannel ahead h s v := by
  have hloss := mul_le_of_le_one_right (mul_nonneg hv hs) (loss_le_one (onWheel (ahead + h / 60)))
  rw [hsvChannel]
  linarith

theorem max_hsvChannel :
    max (hsvChannel 5 h s v) (max (hsvChannel 3 h s v) (hsvChannel 1 h s v)) = v := by
  have hkept {ahead : Rat} (h0 : loss (onWheel (ahead + h / 60)) = 0) :
      v ≤ hsvChannel ahead h s v := by
    rw [hsvChannel, h0, mul_zero, sub_zero]
  have hle ahead := hsvChannel_le hs hv ahead h
  refine le_antisymm (max_le (hle 5) (max_le (hle 3) (hle 1))) ?_
  rcases loss_eq_zero_cases (h / 60) with h0 | h0 | h0
  · exact le_max_of_le_left (hkept h0)
  · exact le_max_of_le_right (le_max_of_le_left (hkept h0))
  · exact le_max_of_le_right (le_max_of_le_right (hkept h0))

theorem min_hsvChannel :
    min (hsvChannel 5 h s v) (min (hsvChannel 3 h s v) (hsvChannel 1 h s v)) = v * (1 - s) := by
  have hlost {ahead : Rat} (h1 : loss (onWheel (ahead + h / 60)) = 1) :
      hsvChannel ahead h s v ≤ v * (1 - s) := by
    rw [hsvChannel, h1]
    linarith
  have hle ahead := le_hsvChannel hs hv ahead h
  refine le_antisymm ?_ (le_min (hle 5) (le_min (hle 3) (hle 1)))
  rcases loss_eq_one_cases (h / 60) with h1 | h1 | h1
  · exact min_le_of_left_le (hlost h1)
  · exact min_le_of_right_le (min_le_of_left_le (hlost h1))
  · exact min_le_of_right_le (min_le_of_right_le (hlost h1))

theorem hsvChannel_mem (hs1 : s ≤ 1) (hv1 : v ≤ 1) :
    0 ≤ hsvChannel ahead h s v ∧ hsvChannel ahead h s v ≤ 1 :=
  ⟨(mul_nonneg hv (by linarith)).trans (le_hsvChannel hs hv ahead h),
    (hsvChannel_le hs hv ahead h).trans hv1⟩

end Range

/-! ### Bytes -/

/-- What a channel is before it is kept in a byte. -/
def scaled (f : Rat) : Int := roundHalfAway (f * 255)

theorem scaled_mem {f : Rat} (h0 : 0 ≤ f) (h1 : f ≤ 1) : 0 ≤ scaled f ∧ scaled f ≤ 255 :=
  ⟨roundHalfAway_nonneg (by linarith), roundHalfAway_le (by push_cast; linarith)⟩

theorem clamp_round (f : Rat) :
    Scalar.clamp (Scalar.ofNat 0) (Scalar.ofNat 255) (Scalar.round (f * Scalar.ofNat 255)) =
      ((max 0 (min 255 (scaled f)) : Int) : Rat) := by
  rw [Scalar.round_rat]
  exact Scalar.clamp_intCast (show (0 : Int) ≤ 255 by decide)

/-- Within the range of a channel there is nothing to clamp. -/
theorem clamp_round_eq {f : Rat} (h0 : 0 ≤ f) (h1 : f ≤ 1) :
    Scalar.clamp 0 255 (Scalar.round (f * 255)) = Scalar.round (f * 255) := by
  obtain ⟨hlow, hhigh⟩ := scaled_mem h0 h1
  refine (clamp_round f).trans ?_
  rw [min_eq_right hhigh, max_eq_right hlow]
  exact (Scalar.round_rat _).symm

theorem toNat_channelByte (f : Rat) :
    ((channelByte f).toNat : Int) = max 0 (min 255 (scaled f)) := by
  have hbyte : channelByte f = UInt8.ofNat (max 0 (min 255 (scaled f))).toNat := by
    unfold channelByte
    dsimp only
    rw [clamp_round, Scalar.toByte, Scalar.toNatIn_intCast]
    congr 2
    omega
  rw [hbyte, UInt8.toNat_ofNat']
  omega

end Rgb
end LedStrip
