import Mathlib.Data.List.Nodup
import LedStrip.Device
import LedStrip.Proofs.Number.Lawful
import LedStrip.Proofs.Panel.Props

/-!
# Descriptions without a fault

`validate` stops at the first fault it meets: it runs through the strips, and on each strip it keeps
the positions that it has seen.  What it finds nothing wrong with is `Valid`, a condition on the
description as a whole (`validate_eq_ok_iff`).

The strips lie back to back in a frame, each from the sum of the lengths before it.  So the placed
LEDs of a valid description have places of their own, all of them in the frame
(`placementsFrom_index_bounds`, `placementsFrom_index_nodup`).
-/

namespace LedStrip

/-- A size as the check of a canvas wants it.  Of two numbers one is at most the other, so that this
is a number above zero (`Canvas.positive_iff`). -/
def Canvas.Positive {R : Type} [Scalar R] (x : R) : Prop := ¬ x ≤ Scalar.ofNat 0

theorem Canvas.positive_iff {R : Type} [Scalar R] [LawfulScalar R] {x : R} {q : Rat}
    (hx : Scalar.toRat? x = some q) : Positive x ↔ 0 < q := by
  have hzero : Scalar.toRat? (Scalar.ofNat 0 : R) = some 0 := Scalar.toRat?_zero
  rw [Positive, LawfulScalar.le_iff hx hzero]
  exact not_le

namespace Device

variable {R : Type} [Scalar R]

/-! ### Validity -/

/-- A guard that a LED names is one of those that are given, if any are. -/
def GuardKnown (guards : Option (Entries (RotorGuard R))) (led : DeviceLed R) : Prop :=
  ∀ g gs, led.guard = some g → guards = some gs → ∃ guard, (g, guard) ∈ gs

/-- A strip whose placed LEDs are its own, each placed once, and under guards that exist. -/
structure ValidStrip (guards : Option (Entries (RotorGuard R))) (s : DeviceStrip R) : Prop where
  inRange : ∀ led ∈ s.leds, led.index < s.ledCount
  nodup : (s.leds.map (·.index)).Nodup
  guarded : ∀ led ∈ s.leds, GuardKnown guards led

/-- A description with a strip at least, on a canvas with a size. -/
structure Valid (d : Device R) : Prop where
  strips_ne_nil : d.strips ≠ []
  width_positive : Canvas.Positive d.canvas.width
  height_positive : Canvas.Positive d.canvas.height
  strips : ∀ s ∈ d.strips, ValidStrip d.rotorGuards s

section Strips

variable {guards : Option (Entries (RotorGuard R))} {strip : DeviceStrip R}

omit [Scalar R]

/-- One LED: what the check asks of it before it goes on to the next. -/
theorem ledFault?_cons_eq_none_iff {seen : List Nat} {led : DeviceLed R}
    {rest : List (DeviceLed R)} :
    ledFault? guards strip seen (led :: rest) = none ↔
      led.index < strip.ledCount ∧ led.index ∉ seen ∧ GuardKnown guards led ∧
        ledFault? guards strip (led.index :: seen) rest = none := by
  unfold GuardKnown
  by_cases hrange : strip.ledCount ≤ led.index
  · simp [ledFault?, hrange, Nat.not_lt.mpr hrange]
  have hlt : led.index < strip.ledCount := Nat.lt_of_not_le hrange
  by_cases hseen : led.index ∈ seen
  · simp [ledFault?, hrange, hseen]
  cases hguard : led.guard with
  | none => simp [ledFault?, hrange, hseen, hguard, hlt]
  | some g =>
    cases guards with
    | none => simp [ledFault?, hrange, hseen, hguard, hlt]
    | some gs =>
      by_cases hknown : Entries.contains g gs = true
      · have hmem := Entries.contains_iff.mp hknown
        simp [ledFault?, hrange, hseen, hguard, hlt, hknown, hmem]
      · have hmem := mt Entries.contains_iff.mpr hknown
        have hstop : ledFault? (some gs) strip seen (led :: rest) ≠ none := by
          simp [ledFault?, hrange, hseen, hguard, hknown]
        refine iff_of_false hstop ?_
        rintro ⟨-, -, hguarded, -⟩
        exact hmem (hguarded g gs rfl rfl)

/-- The rest of a strip: no position in it was seen before. -/
theorem ledFault?_eq_none_iff {seen : List Nat} {leds : List (DeviceLed R)} :
    ledFault? guards strip seen leds = none ↔
      (∀ led ∈ leds, led.index < strip.ledCount) ∧ (leds.map (·.index)).Nodup ∧
        (∀ led ∈ leds, led.index ∉ seen) ∧ ∀ led ∈ leds, GuardKnown guards led := by
  induction leds generalizing seen with
  | nil => simp [ledFault?]
  | cons led rest ih =>
    rw [ledFault?_cons_eq_none_iff, ih]
    rw [List.forall_mem_cons, List.forall_mem_cons, List.forall_mem_cons, List.map_cons,
      List.nodup_cons]
    simp only [List.mem_map, List.mem_cons, not_or, not_exists, not_and]
    constructor
    · rintro ⟨hlt, hseen, hguard, hlts, hnodup, hnew, hguards⟩
      exact ⟨⟨hlt, hlts⟩, ⟨fun l hl h => (hnew l hl).1 h, hnodup⟩,
        ⟨hseen, fun l hl => (hnew l hl).2⟩, hguard, hguards⟩
    · rintro ⟨⟨hlt, hlts⟩, ⟨hfirst, hnodup⟩, ⟨hseen, hnew⟩, hguard, hguards⟩
      exact ⟨hlt, hseen, hguard, hlts, hnodup, fun l hl => ⟨hfirst l hl, hnew l hl⟩, hguards⟩

theorem ledFault?_nil_eq_none_iff :
    ledFault? guards strip [] strip.leds = none ↔ ValidStrip guards strip := by
  rw [ledFault?_eq_none_iff]
  constructor
  · rintro ⟨hrange, hnodup, -, hguards⟩
    exact ⟨hrange, hnodup, hguards⟩
  · rintro ⟨hrange, hnodup, hguards⟩
    exact ⟨hrange, hnodup, fun _ _ => List.not_mem_nil, hguards⟩

end Strips

/-- **The check finds no fault exactly in valid descriptions.** -/
theorem validate_eq_ok_iff (d : Device R) : d.validate = .ok () ↔ d.Valid := by
  have hfault : d.validate = .ok () ↔ d.fault? = none := by
    unfold validate
    cases d.fault? <;> simp
  rw [hfault, fault?]
  by_cases hstrips : d.strips = []
  · rw [hstrips]
    exact ⟨fun h => (nomatch h), fun h => absurd hstrips h.strips_ne_nil⟩
  have hne : d.strips.isEmpty = false := by simpa using hstrips
  rw [hne, if_neg Bool.false_ne_true]
  by_cases hcanvas : d.canvas.width ≤ Scalar.ofNat 0 ∨ d.canvas.height ≤ Scalar.ofNat 0
  · rw [if_pos (by simpa using hcanvas)]
    refine ⟨fun h => (nomatch h), fun h => ?_⟩
    rcases hcanvas with hwidth | hheight
    · exact absurd hwidth h.width_positive
    · exact absurd hheight h.height_positive
  · rw [if_neg (by simpa using hcanvas), List.findSome?_eq_none_iff]
    obtain ⟨hwidth, hheight⟩ := not_or.mp hcanvas
    constructor
    · intro h
      exact ⟨hstrips, hwidth, hheight, fun s hs => ledFault?_nil_eq_none_iff.mp (h s hs)⟩
    · intro h s hs
      exact ledFault?_nil_eq_none_iff.mpr (h.strips s hs)

/-! ### Places in a frame -/

/-- LEDs of strips, without a bound. -/
def total (strips : List (DeviceStrip R)) : Nat := (strips.map (·.ledCount)).sum

omit [Scalar R] in
theorem total_cons (s : DeviceStrip R) (strips : List (DeviceStrip R)) :
    total (s :: strips) = s.ledCount + total strips := by
  rw [total, List.map_cons, List.sum_cons, total]

omit [Scalar R] in
theorem ledCount_eq_total {d : Device R} (h : total d.strips < 2 ^ 64) :
    d.ledCount = total d.strips := by
  have hfold : ∀ n, d.strips.foldl (fun n s => n + s.ledCount) n = n + total d.strips := by
    induction d.strips with
    | nil => exact fun n => rfl
    | cons s rest ih =>
      intro n
      rw [List.foldl_cons, ih, total_cons, Nat.add_assoc]
  rw [ledCount, hfold, Nat.zero_add, Nat.mod_eq_of_lt h]

section Placements

variable {guards : Option (Entries (RotorGuard R))} {offset : Nat} {strips : List (DeviceStrip R)}

omit [Scalar R]

/-- Where the offsets are words, the LEDs of a strip lie behind the offset of the strip. -/
theorem placementsFrom_index_cons {s : DeviceStrip R} (hs : ValidStrip guards s)
    (hword : offset + total (s :: strips) < 2 ^ 64) :
    (placementsFrom offset (s :: strips)).map (·.index) =
      s.leds.map (fun l => offset + l.index) ++
        (placementsFrom (offset + s.ledCount) strips).map (·.index) := by
  rw [placementsFrom, List.map_append, List.map_map]
  congr 1
  refine List.map_congr_left fun led hled => ?_
  have hlt := hs.inRange led hled
  have htotal := total_cons s strips
  exact Nat.mod_eq_of_lt (by omega)

/-- The places are those of the strips. -/
theorem placementsFrom_index_bounds (hvalid : ∀ s ∈ strips, ValidStrip guards s)
    (hword : offset + total strips < 2 ^ 64) :
    ∀ i ∈ (placementsFrom offset strips).map (·.index), offset ≤ i ∧ i < offset + total strips := by
  induction strips generalizing offset with
  | nil => simp [placementsFrom]
  | cons s rest ih =>
    obtain ⟨hs, hrest⟩ := List.forall_mem_cons.mp hvalid
    have htotal := total_cons s rest
    intro i hi
    rw [placementsFrom_index_cons hs hword, List.mem_append] at hi
    rcases hi with hi | hi
    · obtain ⟨led, hled, rfl⟩ := List.mem_map.mp hi
      have hlt := hs.inRange led hled
      omega
    · have hlater := ih hrest (by omega) i hi
      omega

/-- No two placed LEDs have the same place: on one strip they have two positions, and two strips
have no place in common. -/
theorem placementsFrom_index_nodup (hvalid : ∀ s ∈ strips, ValidStrip guards s)
    (hword : offset + total strips < 2 ^ 64) :
    ((placementsFrom offset strips).map (·.index)).Nodup := by
  induction strips generalizing offset with
  | nil => exact List.nodup_nil
  | cons s rest ih =>
    obtain ⟨hs, hrest⟩ := List.forall_mem_cons.mp hvalid
    have htotal := total_cons s rest
    have hword' : offset + s.ledCount + total rest < 2 ^ 64 := by omega
    rw [placementsFrom_index_cons hs hword]
    refine List.nodup_append.mpr ⟨?_, ih hrest hword', ?_⟩
    · have hmap : s.leds.map (fun l => offset + l.index) =
          (s.leds.map (·.index)).map (offset + ·) := by rw [List.map_map]; rfl
      rw [hmap]
      exact List.Nodup.map (fun a b hab => Nat.add_left_cancel hab) hs.nodup
    · intro i hi j hj
      obtain ⟨led, hled, rfl⟩ := List.mem_map.mp hi
      have hlt := hs.inRange led hled
      have hbound := placementsFrom_index_bounds hrest hword' j hj
      omega

end Placements

end Device
end LedStrip
