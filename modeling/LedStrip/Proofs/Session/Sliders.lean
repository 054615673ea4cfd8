import LedStrip.Proofs.Number.Rational
import LedStrip.Proofs.Panel.Lines
import LedStrip.Session

/-!
# Ranges of sliders

The row of a slider shows the ends of its range as the state has them.  Its control moves within
ends of its own: those of the row where they are fixed, zero and a hundred where they are bound
(`Widget.literalNumber_eq`).  So a slider with fixed ends never leaves the range on its row, and one
with a bound end is kept in it only as far as its control happens to be (`slider_range`).
-/

namespace LedStrip

/-! ### Exact numbers -/

/-- An exact number loses nothing on its way into a value. -/
theorem Session.asNumber?_numberValue (x : Rat) :
    (numberValue x : Json Rat).asNumber? = some x := by
  unfold numberValue
  split
  · next h =>
    obtain ⟨hwhole, hsmall⟩ := Bool.and_eq_true_iff.mp h
    have hx : (truncate x : Rat) = x := (Scalar.trunc_rat x).symm.trans (eq_of_beq hwhole)
    have hlt : |truncate x| < 2 ^ 63 := by
      have hrat : |x| < ((2 ^ 63 : Nat) : Rat) := by
        rw [← Scalar.abs_rat]
        exact of_decide_eq_true hsmall
      rw [← hx] at hrat
      exact_mod_cast hrat
    have hword : Scalar.toIntIn (-(2 ^ 63)) (2 ^ 63 - 1) x = truncate x := by
      obtain ⟨hlo, hhi⟩ := abs_lt.mp hlt
      show max (-(2 ^ 63)) (min (2 ^ 63 - 1) (truncate x)) = truncate x
      omega
    rw [hword]
    exact congrArg some hx
  · rfl

/-! ### Controls -/

namespace Control

/-- The smaller end. -/
def lower (c : Control Rat) : Rat := Min.min c.min c.max

/-- The larger end. -/
def upper (c : Control Rat) : Rat := Max.max c.min c.max

variable (c : Control Rat)

theorem adjust_eq (x : Rat) (steps : Int) :
    c.adjust x steps = Scalar.clamp c.lower c.upper (x + c.step * steps) := by
  show (if c.max < c.min then Scalar.clamp c.max c.min (x + c.step * steps)
    else Scalar.clamp c.min c.max (x + c.step * steps)) = _
  by_cases h : c.max < c.min
  · rw [if_pos h, lower, upper, min_eq_right h.le, max_eq_left h.le]
  · rw [if_neg h, lower, upper, min_eq_left (not_lt.mp h), max_eq_right (not_lt.mp h)]

/-- Wherever it moves from, a control moves within its ends. -/
theorem adjust_mem (x : Rat) (steps : Int) :
    c.lower ≤ c.adjust x steps ∧ c.adjust x steps ≤ c.upper := by
  have hle : c.lower ≤ c.upper := min_le_max
  rw [adjust_eq]
  unfold Scalar.clamp
  split
  · exact ⟨le_rfl, hle⟩
  · next hlo =>
    split
    · exact ⟨hle, le_rfl⟩
    · next hhi => exact ⟨not_lt.mp hlo, not_lt.mp hhi⟩

/-- A control that is moved by nothing stays where it is within its ends. -/
theorem adjust_zero {x : Rat} (hlo : c.lower ≤ x) (hhi : x ≤ c.upper) : c.adjust x 0 = x := by
  rw [adjust_eq, Int.cast_zero, mul_zero, add_zero, Scalar.clamp, if_neg (not_lt.mpr hlo),
    if_neg (not_lt.mpr hhi)]

/-- A control keeps to a range from everywhere exactly if its own ends are in there. -/
theorem adjust_mem_iff (lo hi : Rat) :
    (∀ x steps, lo ≤ c.adjust x steps ∧ c.adjust x steps ≤ hi) ↔
      lo ≤ c.lower ∧ c.upper ≤ hi := by
  have hle : c.lower ≤ c.upper := min_le_max
  constructor
  · intro h
    have hlo := (h c.lower 0).1
    have hhi := (h c.upper 0).2
    rw [c.adjust_zero le_rfl hle] at hlo
    rw [c.adjust_zero hle le_rfl] at hhi
    exact ⟨hlo, hhi⟩
  · rintro ⟨hlo, hhi⟩ x steps
    obtain ⟨hlower, hupper⟩ := c.adjust_mem x steps
    exact ⟨hlo.trans hlower, hupper.trans hhi⟩

end Control

/-! ### Ends -/

/-- A property as a control sees it: the number that the row shows, if it is fixed, and a number for
absent ones, if it is bound. -/
theorem Widget.literalNumber_eq {w : Widget Rat} {state : PanelState Rat} {name : String} {x : Rat}
    (hx : w.number? state name = some x) (default : Rat) :
    ((w.literal? name).bind Json.asNumber?).getD default =
      if (w.literal? name).isSome then x else default := by
  obtain ⟨v, hv, hvx⟩ := Option.bind_eq_some_iff.mp hx
  obtain ⟨p, hp, hpv⟩ := Option.bind_eq_some_iff.mp hv
  cases p with
  | bound path => simp [literal?, hp]
  | literal v' =>
    obtain rfl : v' = v := Option.some.inj hpv
    simp [literal?, hp, hvx]

namespace Session

variable {σ : Type} [Effect Rat σ]

/-- **The range of a slider.**  Let the row of a slider show the ends `lo` and `hi`.  Its control
has these ends where they are fixed, and zero and a hundred where they are bound.  Whatever it is
moved by, the value that goes to the bridge is between the ends of the control.  It stays in the
range on the row, wherever it moves from, exactly if the ends of the control are in that range; so
it does where both are fixed. -/
theorem slider_range {s : Session Rat σ} {w : Widget Rat} (hw : s.widgets = some w)
    {i indent : Nat} {slider : Widget Rat} {path : String}
    (hslot : w.slots[i]? = some (.value indent slider path)) {lo hi : Rat}
    (hlo : slider.number? s.state "min" = some lo) (hhi : slider.number? s.state "max" = some hi) :
    ∃ c, s.controls[i]? = some c ∧
      (∃ l shown, s.panelLines.filter (fun l => l.control = some i) = [l] ∧
        l.text = shown ++ " [" ++ Widget.numberText lo ++ ".." ++ Widget.numberText hi ++ "]") ∧
      (c.min = if (slider.literal? "min").isSome then lo else 0) ∧
      (c.max = if (slider.literal? "max").isSome then hi else 100) ∧
      (∀ steps, ∃ v : Rat, s.adjustControl i steps = s.edit path (numberValue v) ∧
        (numberValue v : Json Rat).asNumber? = some v ∧ v = c.adjust (s.current c) steps ∧
        min c.min c.max ≤ v ∧ v ≤ max c.min c.max) ∧
      ((∀ x steps, min lo hi ≤ c.adjust x steps ∧ c.adjust x steps ≤ max lo hi) ↔
        min lo hi ≤ min c.min c.max ∧ max c.min c.max ≤ max lo hi) ∧
      ((slider.literal? "min").isSome → (slider.literal? "max").isSome →
        ∀ x steps, min lo hi ≤ c.adjust x steps ∧ c.adjust x steps ≤ max lo hi) := by
  let c := (Slot.value indent slider path).control
  have hcontrol : s.controls[i]? = some c := by
    rw [controls, hw, Option.map_some, Option.getD_some, Widget.controls_eq_slots,
      List.getElem?_map, hslot, Option.map_some]
  have hmin : c.min = if (slider.literal? "min").isSome then lo else 0 :=
    Widget.literalNumber_eq hlo 0
  have hmax : c.max = if (slider.literal? "max").isSome then hi else 100 :=
    Widget.literalNumber_eq hhi 100
  have hiff := c.adjust_mem_iff (min lo hi) (max lo hi)
  refine ⟨c, hcontrol, ?_, hmin, hmax, fun steps => ⟨c.adjust (s.current c) steps, ?_,
    asNumber?_numberValue _, rfl, c.adjust_mem _ steps⟩, hiff, fun hfixed hfixed' => hiff.mpr ?_⟩
  · have hline : s.panelLines.filter (fun l => l.control = some i) =
        [(Slot.value indent slider path).line s.state i] := by
      rw [panelLines, hw, Option.map_some, Option.getD_some, Widget.line_of_slot hslot]
    have hlo' : slider.numberTextOf s.state "min" "" = Widget.numberText lo := by
      rw [Widget.numberTextOf, hlo, Option.map_some, Option.getD_some]
    have hhi' : slider.numberTextOf s.state "max" "" = Widget.numberText hi := by
      rw [Widget.numberTextOf, hhi, Option.map_some, Option.getD_some]
    let slot := Slot.value indent slider path
    refine ⟨_, slot.caption s.state ++ ": " ++ slot.shown s.state ++ slider.textOf s.state "unit",
      hline, ?_⟩
    rw [← hlo', ← hhi']
    simp only [Slot.line, slot, Slot.remark, String.append_assoc]
  · rw [adjustControl, hcontrol]
    rfl
  · rw [Control.lower, Control.upper, hmin, hmax, if_pos hfixed, if_pos hfixed']
    exact ⟨le_rfl, le_rfl⟩

/-- A panel of one slider from one point to as many as it is told. -/
def pointsPanel (max : Json Rat) : PanelSpec Rat where
  root := "main"
  elements :=
    [("main", { component := "Stack", children := ["points"] }),
     ("points",
       { component := "CupertinoSlider"
         props := [("label", .str "Points"), ("max", max), ("min", .int 1),
           ("value", .obj [(bindKey, .str "/effect/chaseCount")])] })]
  state := .obj [("effect", .obj [("chaseCount", .int 5), ("limit", .int 5)])]

/-- With a fixed end, a slider at its upper end stays there. -/
theorem fixed_end_is_kept :
    ∃ (s : Session Rat (Builtin Rat)) (w slider : Widget Rat),
      create Builtin.chaseFactory (some (.spec (pointsPanel (.int 5)))) {} = .ok s ∧
        s.widgets = some w ∧ w.slots[0]? = some (.value 0 slider "/effect/chaseCount") ∧
        slider.number? s.state "min" = some 1 ∧ slider.number? s.state "max" = some 5 ∧
        ∀ steps, ∃ v : Rat, s.adjustControl 0 steps = s.edit "/effect/chaseCount" (numberValue v) ∧
          1 ≤ v ∧ v ≤ 5 := by
  obtain ⟨s, w, slider, hs, hw, hslot, hmin, hmax, hfixed, hfixed'⟩ :
      ∃ (s : Session Rat (Builtin Rat)) (w slider : Widget Rat),
        create Builtin.chaseFactory (some (.spec (pointsPanel (.int 5)))) {} = .ok s ∧
          s.widgets = some w ∧ w.slots[0]? = some (.value 0 slider "/effect/chaseCount") ∧
          slider.number? s.state "min" = some 1 ∧ slider.number? s.state "max" = some 5 ∧
          (slider.literal? "min").isSome ∧ (slider.literal? "max").isSome :=
    ⟨_, _, _, rfl, rfl, rfl, rfl, rfl, rfl, rfl⟩
  obtain ⟨c, -, -, -, -, hvalue, -, hkept⟩ := slider_range hw hslot hmin hmax
  refine ⟨s, w, slider, hs, hw, hslot, hmin, hmax, fun steps => ?_⟩
  obtain ⟨v, hedit, -, rfl, -, -⟩ := hvalue steps
  have hrange := hkept hfixed hfixed' (s.current c) steps
  norm_num at hrange
  exact ⟨_, hedit, hrange⟩

/-- With a bound end it goes on: the value is six where the row says five at most. -/
theorem bound_end_is_left :
    ∃ (s t : Session Rat (Builtin Rat)) (w slider : Widget Rat),
      create Builtin.chaseFactory
          (some (.spec (pointsPanel (.obj [(bindKey, .str "/effect/limit")])))) {} = .ok s ∧
        s.widgets = some w ∧ w.slots[0]? = some (.value 0 slider "/effect/chaseCount") ∧
        slider.number? s.state "min" = some 1 ∧ slider.number? s.state "max" = some 5 ∧
        s.adjustControl 0 1 = (.ok (.config "chaseCount" (.int 6)), t) ∧
        t.state.get? "/effect/chaseCount" = some (.int 6) ∧
        slider.number? t.state "max" = some 5 := by
  let c : Control Rat := ⟨"Points", "/effect/chaseCount", 1, 100, 1, ""⟩
  have hmoved : c.adjust 5 1 = 6 := by decide +kernel
  have hvalue : (numberValue 6 : Json Rat) = .int 6 := by
    unfold numberValue
    rw [if_pos (by decide +kernel)]
    exact congrArg Json.int (by decide +kernel)
  obtain ⟨s, t, w, slider, hs, hw, hslot, hmin, hmax, hcontrol, hread, hedit, hafter⟩ :
      ∃ (s t : Session Rat (Builtin Rat)) (w slider : Widget Rat),
        create Builtin.chaseFactory
            (some (.spec (pointsPanel (.obj [(bindKey, .str "/effect/limit")])))) {} = .ok s ∧
          s.widgets = some w ∧ w.slots[0]? = some (.value 0 slider "/effect/chaseCount") ∧
          slider.number? s.state "min" = some 1 ∧ slider.number? s.state "max" = some 5 ∧
          s.controls[0]? = some c ∧ s.state.get? "/effect/chaseCount" = some (.int 5) ∧
          s.edit "/effect/chaseCount" (.int 6) = (.ok (.config "chaseCount" (.int 6)), t) ∧
          t.state.get? "/effect/chaseCount" = some (.int 6) ∧
          slider.number? t.state "max" = some 5 :=
    ⟨_, _, _, _, rfl, rfl, rfl, rfl, rfl, rfl, rfl, rfl, rfl, rfl⟩
  refine ⟨s, t, w, slider, hs, hw, hslot, hmin, hmax, ?_, hafter⟩
  have hcurrent : s.current c = 5 := by
    rw [current, hread]
    rfl
  rw [adjustControl, hcontrol]
  dsimp only
  rw [hcurrent, hmoved, hvalue]
  exact hedit

end Session
end LedStrip
