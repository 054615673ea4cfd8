import LedStrip.Proofs.Color.Hsv
import LedStrip.Proofs.Script.Hooks

/-!
# Colors by hue in scripts

The shared functions of the scripts convert colors on their own: with a remainder that is taken
twice, since theirs has the sign of the hue, and with bytes that are clamped as integers
(`HasRuntime.hsv_to_rgb`).  The channels are those of the program.  A byte comes out as in the
program too, except where the integer before the clamp is none that scripts have (`byteOf`).
-/

namespace LedStrip
namespace Script

open Bundled Program Scalar

theorem wholePart_intCast (n : Int) :
    wholePart (n : Rat) =
      if |n| ≤ 2 ^ 63 then .ok (.int (min maxInt n)) else .error (.overflow "Integer") := by
  have hhigh : (ofInt (2 ^ 63) : Rat) < (n : Rat) ↔ 2 ^ 63 < n := Int.cast_lt
  have hlow : (n : Rat) < (ofInt minInt : Rat) ↔ n < minInt := Int.cast_lt
  have hwhole : toIntIn minInt maxInt (n : Rat) = max minInt (min maxInt (truncate (n : Rat))) :=
    rfl
  have hmin : minInt = -2 ^ 63 := rfl
  unfold wholePart
  rw [hwhole, truncate_ofInt]
  simp only [hhigh, hlow, Bool.or_eq_true, decide_eq_true_eq, abs_le]
  by_cases h : 2 ^ 63 < n ∨ n < minInt
  · rw [if_pos h, if_neg (by omega)]
  · rw [if_neg h, if_pos (by omega), max_eq_right (le_min (by decide) (by omega))]

/-! ### What scripts make of channels -/

/-- A channel as a byte. -/
def byteOf (f : Rat) : Except (Fault Rat) (Value Rat) :=
  if |Rgb.scaled f| ≤ 2 ^ 63 then .ok (.int (Rgb.channelByte f).toNat)
  else .error (.overflow "Integer")

/-- Three channels, from red to blue. -/
def bytesOf (channels : Rat × Rat × Rat) : Except (Fault Rat) (Value Rat) := do
  let r ← byteOf channels.1
  let g ← byteOf channels.2.1
  let b ← byteOf channels.2.2
  return .array [r, g, b]

theorem bytesOf_eq (r g b : Rat) :
    bytesOf (r, g, b) =
      if ∀ f ∈ [r, g, b], |Rgb.scaled f| ≤ 2 ^ 63 then
        .ok (rgbValue ⟨Rgb.channelByte r, Rgb.channelByte g, Rgb.channelByte b⟩)
      else .error (.overflow "Integer") := by
  unfold bytesOf byteOf
  by_cases hr : |Rgb.scaled r| ≤ 2 ^ 63 <;> by_cases hg : |Rgb.scaled g| ≤ 2 ^ 63 <;>
    by_cases hb : |Rgb.scaled b| ≤ 2 ^ 63 <;> simp [-Int.reducePow, hr, hg, hb, rgbValue]

section Steps

theorem store_here (x v : Value Rat) : store (assigned none x) [] v = .ok x := rfl

variable (e : Except (Fault Rat) (Value Rat))

theorem next_outcomeOf (env : Env Rat) :
    Eval.next (outcomeOf e, env) (fun v => pure v) = (outcomeOf e, env) := by
  cases e <;> rfl

theorem answer_outcomeOf : answer (outcomeOf e) = outcomeOf e := by
  cases e <;> rfl

end Steps

namespace HasRuntime

variable {p : Program} (hp : HasRuntime p) (depth : Nat) (this? : Option (Value Rat))

include hp

theorem to_byte (f : Rat) :
    caller p (depth + 1) "to_byte" [.float f] this? = some (outcomeOf (byteOf f), this?) := by
  refine (hp.shared.caller_eq Runtime.toByte (by simp [runtime]) rfl _ _).trans ?_
  have hround : Scalar.round (f * ofRat 255) = (Rgb.scaled f : Rat) := round_rat _
  have hwhole := wholePart_intCast (Rgb.scaled f)
  have hbyte := Rgb.toNat_channelByte f
  have hmax : maxInt = 2 ^ 63 - 1 := rfl
  unfold byteOf
  by_cases h : |Rgb.scaled f| ≤ 2 ^ 63
  · rw [if_pos h] at hwhole ⊢
    obtain ⟨n, hn⟩ : ∃ n, min maxInt (Rgb.scaled f) = n := ⟨_, rfl⟩
    rw [hn] at hwhole
    rcases lt_or_ge n 0 with h0 | h0
    · rw [hbyte, show max 0 (min 255 (Rgb.scaled f)) = 0 by omega]
      simp -implicitDefEqProofs [Runtime.toByte, hp.caller_round, hp.caller_to_int, hround, hwhole,
        h0]
    rcases lt_or_ge 255 n with h1 | h1
    · rw [hbyte, show max 0 (min 255 (Rgb.scaled f)) = 255 by omega]
      simp -implicitDefEqProofs [Runtime.toByte, hp.caller_round, hp.caller_to_int, hround, hwhole,
        not_lt.mpr h0, h1]
    · rw [hbyte, show max 0 (min 255 (Rgb.scaled f)) = n by omega]
      simp -implicitDefEqProofs [Runtime.toByte, hp.caller_round, hp.caller_to_int, hround, hwhole,
        not_lt.mpr h0, not_lt.mpr h1]
  · rw [if_neg h] at hwhole ⊢
    simp -implicitDefEqProofs [Runtime.toByte, hp.caller_round, hp.caller_to_int, hround, hwhole]

/-- The end of `hsv_to_rgb`, with the channels where it has put them. -/
theorem eval_bytes (r g b m : Rat) (rest : List (Variable Rat)) :
    eval (caller p (depth + 1))
      (.array
        [.call "to_byte" [.binary .add (.var "r") (.var "m")],
         .call "to_byte" [.binary .add (.var "g") (.var "m")],
         .call "to_byte" [.binary .add (.var "b") (.var "m")]])
      ⟨⟨"b", .float b, false⟩ :: ⟨"g", .float g, false⟩ :: ⟨"r", .float r, false⟩ ::
        ⟨"m", .float m, false⟩ :: rest, this?⟩ =
      (outcomeOf (bytesOf (r + m, g + m, b + m)),
        ⟨⟨"b", .float b, false⟩ :: ⟨"g", .float g, false⟩ :: ⟨"r", .float r, false⟩ ::
          ⟨"m", .float m, false⟩ :: rest, this?⟩) := by
  cases hr : byteOf (r + m) with
  | error e => simp -implicitDefEqProofs [hp.to_byte, hr, bytesOf]
  | ok r' =>
    cases hg : byteOf (g + m) with
    | error e => simp -implicitDefEqProofs [hp.to_byte, hr, hg, bytesOf]
    | ok g' =>
      cases hb : byteOf (b + m) with
      | error e => simp -implicitDefEqProofs [hp.to_byte, hr, hg, hb, bytesOf]
      | ok b' => simp -implicitDefEqProofs [hp.to_byte, hr, hg, hb, bytesOf]

theorem hsv_to_rgb (h s v : Rat) :
    caller p (depth + 2) "hsv_to_rgb" [.float h, .float s, .float v] this? =
      some (outcomeOf (bytesOf (Rgb.hsvChannels h s v)), this?) := by
  refine (hp.shared.caller_eq Runtime.hsvToRgb (by simp [runtime]) rfl _ _).trans ?_
  obtain ⟨hue, hhue⟩ : ∃ hue : Rat, Scalar.floorMod h 360 = hue := ⟨_, rfl⟩
  have hrem : Scalar.rem (Scalar.rem h 360 + 360) 360 = hue := by
    rw [← hhue, rem_rem_add (by norm_num), floorMod_rat (by norm_num)]
  have hliteral (q : Rat) : (ofRat q : Rat) = q := rfl
  -- a branch for every part of the turn, and the same steps in each
  by_cases h60 : hue < 60
  on_goal 2 => by_cases h120 : hue < 120
  on_goal 3 => by_cases h180 : hue < 180
  on_goal 4 => by_cases h240 : hue < 240
  on_goal 5 => by_cases h300 : hue < 300
  all_goals
    simp -implicitDefEqProofs [-answer, Runtime.hsvToRgb, hp.as_float_float, hp.caller_abs,
      store_here, ↓ hp.eval_bytes, ↓ next_outcomeOf, answer_outcomeOf, Rgb.hsvChannels, ofNat_rat,
      *]

theorem call_hsv_to_rgb (h s v : Rat) :
    p.call "hsv_to_rgb" [.float h, .float s, .float v] none =
      (bytesOf (Rgb.hsvChannels h s v), none) := by
  rw [call, show maxCalls = 62 + 2 from rfl, hp.hsv_to_rgb]
  cases bytesOf (Rgb.hsvChannels h s v) <;> rfl

end HasRuntime

/-- **Colors by hue, in the program and in its scripts.**  For every hue, saturation and value:

* The six parts of a turn come to one formula, and whole turns do not change the color.
* With saturation and value in `[0, 1]` the value is the largest channel and what the saturation
  leaves of it the smallest, so that nothing has to be clamped; and the scripts get the same bytes.
* In general the scripts get the same bytes as long as every channel, scaled and rounded, is one of
  the integers that scripts have, which is what they make of it before they clamp.  Beyond those the
  program clamps and the scripts fail. -/
theorem hsv_conversions {p : Program} (hp : HasRuntime p) (h s v : Rat) :
    let (r, g, b) := Rgb.hsvChannels h s v
    let script := (p.call "hsv_to_rgb" [.float h, .float s, .float v] none).1
    (r, g, b) = (Rgb.hsvChannel 5 h s v, Rgb.hsvChannel 3 h s v, Rgb.hsvChannel 1 h s v) ∧
      (∀ n : Int, Rgb.hsvChannels (h + 360 * n) s v = Rgb.hsvChannels h s v) ∧
      (0 ≤ s → s ≤ 1 → 0 ≤ v → v ≤ 1 →
        max r (max g b) = v ∧ min r (min g b) = v * (1 - s) ∧
          (∀ f ∈ [r, g, b], (0 ≤ f ∧ f ≤ 1) ∧
            Scalar.clamp 0 255 (Scalar.round (f * 255)) = Scalar.round (f * 255)) ∧
          script = .ok (rgbValue (Rgb.ofHsv h s v))) ∧
      script = if ∀ f ∈ [r, g, b], |roundHalfAway (f * 255)| ≤ 2 ^ 63 then
        .ok (rgbValue (Rgb.ofHsv h s v)) else .error (.overflow "Integer") := by
  have hscript : (p.call "hsv_to_rgb" [.float h, .float s, .float v] none).1 =
      bytesOf (Rgb.hsvChannels h s v) := congrArg Prod.fst (hp.call_hsv_to_rgb h s v)
  have hofHsv : Rgb.ofHsv h s v = ⟨Rgb.channelByte (Rgb.hsvChannel 5 h s v),
      Rgb.channelByte (Rgb.hsvChannel 3 h s v), Rgb.channelByte (Rgb.hsvChannel 1 h s v)⟩ := by
    rw [Rgb.ofHsv, Rgb.hsvChannels_eq]
  rw [Rgb.hsvChannels_eq] at hscript ⊢
  rw [bytesOf_eq, ← hofHsv] at hscript
  dsimp only
  refine ⟨rfl, fun n => ?_, fun hs hs1 hv hv1 => ?_, hscript⟩
  · simp only [Rgb.hsvChannels_eq, Rgb.hsvChannel_add_turns]
  have hmem : ∀ f ∈ [Rgb.hsvChannel 5 h s v, Rgb.hsvChannel 3 h s v, Rgb.hsvChannel 1 h s v],
      0 ≤ f ∧ f ≤ 1 := by
    have hchannel (ahead : Rat) := Rgb.hsvChannel_mem hs hv ahead h hs1 hv1
    simp only [List.forall_mem_cons, List.not_mem_nil, false_imp_iff, implies_true, and_true]
    exact ⟨hchannel 5, hchannel 3, hchannel 1⟩
  refine ⟨Rgb.max_hsvChannel hs hv h, Rgb.min_hsvChannel hs hv h,
    fun f hf => ⟨hmem f hf, Rgb.clamp_round_eq (hmem f hf).1 (hmem f hf).2⟩, ?_⟩
  rw [hscript, if_pos fun f hf => ?_]
  obtain ⟨h0, h255⟩ := Rgb.scaled_mem (hmem f hf).1 (hmem f hf).2
  rw [abs_of_nonneg h0]
  exact h255.trans (by norm_num)

/-- Half a turn past a whole one, at half the value, is a dark cyan for the scripts of blink. -/
theorem dark_cyan_in_blink :
    Loader.compileAll (logicSegments "blink") = .ok (withRuntime blinkLogic) ∧
      Rgb.hsvChannels (540 : Rat) 1 (1 / 2) = Rgb.hsvChannels 180 1 (1 / 2) ∧
      ((withRuntime blinkLogic).call "hsv_to_rgb"
        [.float (540 : Rat), .float 1, .float (1 / 2)] none).1 =
        .ok (.array [.int 0, .int 128, .int 128]) := by
  obtain ⟨-, hturns, -⟩ := hsv_conversions hasRuntime_blink 180 1 (1 / 2)
  obtain ⟨-, -, hrange, -⟩ := hsv_conversions hasRuntime_blink 540 1 (1 / 2)
  obtain ⟨-, -, -, hbytes⟩ :=
    hrange zero_le_one le_rfl (by norm_num) (by norm_num)
  have hcyan : Rgb.ofHsv (540 : Rat) 1 (1 / 2) = ⟨0, 128, 128⟩ := by decide +kernel
  refine ⟨compile_blink, ?_, ?_⟩
  · rw [show (540 : Rat) = 180 + 360 * (1 : Int) by norm_num, hturns]
  · rw [hbytes, hcyan]
    rfl

/-- A value far beyond the range is white in the program, and in the scripts of blink it has no
bytes at all: they make an integer of the channel before they clamp it. -/
theorem far_value_has_no_bytes :
    Rgb.ofHsv (0 : Rat) 0 (10 ^ 17) = ⟨255, 255, 255⟩ ∧
      ((withRuntime blinkLogic).call "hsv_to_rgb"
        [.float (0 : Rat), .float 0, .float (10 ^ 17)] none).1 = .error (.overflow "Integer") := by
  have hchannels : Rgb.hsvChannels (0 : Rat) 0 (10 ^ 17) = (10 ^ 17, 10 ^ 17, 10 ^ 17) := by
    decide +kernel
  have hlarge : ¬ |Rgb.scaled (10 ^ 17)| ≤ 2 ^ 63 := by decide +kernel
  refine ⟨by decide +kernel, ?_⟩
  rw [hasRuntime_blink.call_hsv_to_rgb, hchannels, bytesOf_eq,
    if_neg fun h => hlarge (h _ (List.mem_cons_self ..))]

end Script
end LedStrip
