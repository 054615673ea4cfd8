import LedStrip.Proofs.Panel.Lines
import LedStrip.Proofs.Session.Runs

/-!
# Reading back what was written

A control writes by key and reads by path: an edit puts its value under the key that the path names
(`Bridge.keyOf?`), and the row of the control shows what is found by following the path from the top
of the state.  The two meet where the path is nothing but the way to the key
(`PanelState.get?_withEffectValue_self`).  A path that names another key finds what it found before
(`PanelState.get?_withEffectValue_of_ne`), unless the edit made room for its key by throwing a list
away.
-/

namespace LedStrip

open Bridge (keyOf?)

/-! ### One write -/

namespace PanelState

open Json (IsPlainStep indexStep?)

variable {R : Type} {s : PanelState R} {key other : String} {v : Json R}

/-- The part of the state that belongs to the effect is a list. -/
def HoldsList (s : PanelState R) : Prop :=
  ∃ items, s.value.get? effectNamespace = some (.arr items)

theorem step?_effectNamespace_withEffectValue (s : PanelState R) (key : String) (v : Json R) :
    (s.withEffectValue key v).value.step? effectNamespace =
      some (.obj (Entries.insert key v s.effectMembers)) :=
  Entries.get?_insert_self effectNamespace _ _

/-- Beside the part of the effect nothing is written. -/
theorem step?_empty_withEffectValue (s : PanelState R) (key : String) (v : Json R) :
    (s.withEffectValue key v).value.step? "" = s.value.step? "" := by
  have hwritten : (s.withEffectValue key v).value.step? "" = Entries.get? "" s.members :=
    Entries.get?_insert_of_ne (by decide) _ _
  have hbefore : s.value.get? "" = Entries.get? "" s.members := by
    unfold members
    cases s.value <;> rfl
  rw [hwritten, Json.step?_eq_get? Json.indexStep?_empty, hbefore]

/-- Within that part another key keeps its value, and so does the place of a list, where there is no
list. -/
theorem step?_other_withEffectValue (hne : other ≠ key)
    (hlist : s.HoldsList → indexStep? other = none) (v : Json R) :
    ((s.withEffectValue key v).value.step? effectNamespace).bind (Json.step? other) =
      (s.value.step? effectNamespace).bind (Json.step? other) := by
  have hwritten : ((s.withEffectValue key v).value.step? effectNamespace).bind (Json.step? other) =
      s.effectValue? other := by
    rw [step?_effectNamespace_withEffectValue, ← get?_effectMembers,
      ← Entries.get?_insert_of_ne hne v s.effectMembers]
    rfl
  have hbefore : (s.value.step? effectNamespace).bind (Json.step? other) = s.effectValue? other := by
    rw [Json.step?_eq_get? Json.indexStep?_effectNamespace]
    unfold effectValue?
    cases hpart : s.value.get? effectNamespace with
    | none => rfl
    | some part =>
      cases part with
      | arr items => exact Json.step?_eq_get? (hlist ⟨items, hpart⟩) (.arr items)
      | _ => rfl
  rw [hwritten, hbefore]

/-- **What is written under a key is found on the plain way to it.** -/
theorem get?_withEffectValue_self {path : String}
    (hpath : Text.pieces '/' path = ["", effectNamespace, key]) (hplain : IsPlainStep key)
    (s : PanelState R) (v : Json R) : (s.withEffectValue key v).get? path = some v := by
  show Json.pointer? path (s.withEffectValue key v).value = some v
  rw [Json.pointer?_of_key hpath hplain, step?_effectNamespace_withEffectValue, Option.bind_some]
  exact Entries.get?_insert_self key v s.effectMembers

end PanelState

/-! ### Paths that name a key -/

namespace Bridge

variable {path key : String}

theorem ne_empty_of_keyOf? (h : keyOf? path = some key) : key ≠ "" := by
  obtain ⟨rest, hrest⟩ := keyOf?_eq_some_iff.mp h
  have hmem : key ∈ segments path := by
    rw [hrest]
    exact List.mem_cons_of_mem _ List.mem_cons_self
  exact of_decide_eq_true (List.mem_filter.mp hmem).2

/-- Steps that are not all empty begin with an empty one, or with the first that is not. -/
theorem cases_of_filter {steps : List String} {step : String} {rest : List String}
    (h : steps.filter (· ≠ "") = step :: rest) :
    (∃ more, steps = "" :: more ∧ more.filter (· ≠ "") = step :: rest) ∨
      ∃ more, steps = step :: more ∧ more.filter (· ≠ "") = rest := by
  cases steps with
  | nil => cases h
  | cons first more =>
    by_cases hfirst : first = ""
    · rw [List.filter_cons_of_neg (by simp [hfirst])] at h
      exact .inl ⟨more, by rw [hfirst], h⟩
    · rw [List.filter_cons_of_pos (by simp [hfirst])] at h
      obtain ⟨rfl, hmore⟩ := List.cons.inj h
      exact .inr ⟨more, rfl, hmore⟩

/-- How a path that names a key begins: without a separator, or with an empty step before the
namespace or before the key, or with nothing but the way to the key. -/
theorem pieces_cases_of_keyOf? (h : keyOf? path = some key) :
    (∃ steps, Text.pieces '/' path = effectNamespace :: steps) ∨
    (∃ steps, Text.pieces '/' path = "" :: "" :: steps) ∨
    (∃ steps, Text.pieces '/' path = "" :: effectNamespace :: "" :: steps) ∨
    ∃ steps, Text.pieces '/' path = "" :: effectNamespace :: key :: steps := by
  obtain ⟨rest, hrest⟩ := keyOf?_eq_some_iff.mp h
  obtain ⟨afterRoot, hroot, hrest⟩ | ⟨steps, hroot, -⟩ := cases_of_filter hrest
  · obtain ⟨steps, hfirst, -⟩ | ⟨afterFirst, hfirst, hrest⟩ := cases_of_filter hrest
    · exact .inr (.inl ⟨steps, by rw [hroot, hfirst]⟩)
    · obtain ⟨steps, hsecond, -⟩ | ⟨steps, hsecond, -⟩ := cases_of_filter hrest
      · exact .inr (.inr (.inl ⟨steps, by rw [hroot, hfirst, hsecond]⟩))
      · exact .inr (.inr (.inr ⟨steps, by rw [hroot, hfirst, hsecond]⟩))
  · exact .inl ⟨steps, hroot⟩

end Bridge

namespace PanelState

open Json (IsPlainStep indexStep?)

variable {R : Type} {s : PanelState R} {key other path : String}

/-- A path that leads through the namespace to a step sees no more of the state than that step. -/
theorem get?_eq_of_step {t : PanelState R} {step : String} {steps : List String}
    (hpath : Text.pieces '/' path = "" :: effectNamespace :: step :: steps)
    (hplain : IsPlainStep step)
    (hstep : (t.value.step? effectNamespace).bind (Json.step? step) =
      (s.value.step? effectNamespace).bind (Json.step? step)) : t.get? path = s.get? path := by
  have hwalk (u : PanelState R) : u.get? path =
      ((u.value.step? effectNamespace).bind (Json.step? step)).bind
        (Json.walk? (steps.map fun s => String.ofList (Json.unescapeStep s.toList))) := by
    show Json.pointer? path u.value = _
    rw [Json.pointer?_of_pieces hpath, List.map_cons, List.map_cons,
      Json.isPlainStep_effectNamespace, hplain, Json.walk?, Option.bind_assoc]
    rfl
  rw [hwalk, hwalk, hstep]

/-- **A path that names another key finds what it found before.** -/
theorem get?_withEffectValue_of_ne (hkey : key ≠ "") (hother : keyOf? path = some other)
    (hne : other ≠ key) (hplain : IsPlainStep other)
    (hlist : s.HoldsList → indexStep? other = none) (v : Json R) :
    (s.withEffectValue key v).get? path = s.get? path := by
  obtain ⟨steps, hpath⟩ | ⟨steps, hpath⟩ | ⟨steps, hpath⟩ | ⟨steps, hpath⟩ :=
    Bridge.pieces_cases_of_keyOf? hother
  · show Json.pointer? path _ = Json.pointer? path _
    have hroot : effectNamespace ≠ "" := by decide
    rw [Json.pointer?_of_pieces_of_ne hpath hroot, Json.pointer?_of_pieces_of_ne hpath hroot]
  · show Json.pointer? path _ = Json.pointer? path _
    rw [Json.pointer?_of_pieces hpath, Json.pointer?_of_pieces hpath, List.map_cons,
      Json.isPlainStep_empty, Json.walk?, Json.walk?, step?_empty_withEffectValue]
  · exact get?_eq_of_step hpath Json.isPlainStep_empty
      (step?_other_withEffectValue hkey.symm (fun _ => Json.indexStep?_empty) v)
  · exact get?_eq_of_step hpath hplain (step?_other_withEffectValue hne hlist v)

end PanelState

/-! ### Controls -/

namespace Widget

variable {R : Type} [Scalar R]

/-- The line of a control shows the number at its path. -/
theorem line_of_control {w : Widget R} {i : Nat} {c : Control R} (h : w.controls[i]? = some c)
    {state : PanelState R} {x : R} (hx : (state.get? c.path).bind Json.asNumber? = some x) :
    ∃ s : Slot R, s.control = c ∧ (w.lines state).filter (fun l => l.control = some i) =
        [s.line state i] ∧
      (s.line state i).text = s.caption state ++ ": " ++ numberText x ++ s.remark state := by
  rw [controls_eq_slots, List.getElem?_map] at h
  obtain ⟨s, hs, rfl⟩ := Option.map_eq_some_iff.mp h
  have hpath : s.control.path = s.path := by cases s <;> rfl
  have hshown : s.shown state = numberText x := by
    rw [Slot.shown, ← hpath, hx]
    rfl
  refine ⟨s, rfl, line_of_slot hs state, ?_⟩
  rw [← hshown]
  rfl

end Widget

namespace EditAction

variable {R : Type}

/-- The edit went to a setting of the effect other than its interval. -/
def Configures : EditAction R → Prop
  | color _ | config _ _ => True
  | ignored | speed _ => False

end EditAction

namespace Session

open Json (IsPlainStep indexStep?)

variable {R σ : Type} [Scalar R] [Effect R σ]

/-- A control is where a value is: its path leads to the value, its line shows the number, and it
moves on from there. -/
structure StandsAt (t : Session R σ) (i : Nat) (c : Control R) (v : Json R) (x : R) : Prop where
  reads : t.state.get? c.path = some v
  shows : ∃ slot : Slot R, slot.control = c ∧
    t.panelLines.filter (fun l => l.control = some i) = [slot.line t.state i] ∧
      (slot.line t.state i).text =
        slot.caption t.state ++ ": " ++ Widget.numberText x ++ slot.remark t.state
  movesFrom : ∀ steps : Int,
    t.adjustControl i steps = t.edit c.path (numberValue (c.adjust x steps))

/-- An edit that goes to a setting is in the state under its key. -/
theorem EditsTo.state_of_configures {s : Session R σ} {path : String} {v : Json R}
    {answer : Except SessionError (EditAction R)} {state : PanelState R}
    {scheduler : Scheduler R σ} (h : s.EditsTo path v answer state scheduler)
    {action : EditAction R} (hanswer : answer = .ok action) (haction : action.Configures) :
    ∃ key, keyOf? path = some key ∧ state = s.state.withEffectValue key v := by
  cases h with
  | ignored _ | speed _ _ =>
    cases hanswer
    exact haction.elim
  | refused _ _ => cases hanswer
  | color hkey _ _ _ _ | config hkey _ _ _ _ => exact ⟨_, hkey, rfl⟩

/-- Where the panel is data, such an edit leaves the widgets alone. -/
theorem IsDeclarative.edit_configures {s t : Session R σ} (h : s.IsDeclarative) {path : String}
    {v : Json R} {action : EditAction R} (hedit : s.edit path v = (.ok action, t))
    (haction : action.Configures) :
    t.widgets = s.widgets ∧
      ∃ key, keyOf? path = some key ∧ t.state = s.state.withEffectValue key v := by
  obtain ⟨answer, state, scheduler, shown, hto, heq⟩ := h.edit_eq path v
  rw [heq] at hedit
  obtain ⟨hanswer, rfl⟩ := Prod.mk.inj hedit
  exact ⟨rfl, hto.state_of_configures hanswer haction⟩

/-- A control whose path leads to a number stands there. -/
theorem standsAt_of_get? {t : Session R σ} {w : Widget R} (hw : t.widgets = some w) {i : Nat}
    {c : Control R} (hc : t.controls[i]? = some c) {v : Json R}
    (hread : t.state.get? c.path = some v) {x : R} (hx : v.asNumber? = some x) :
    t.StandsAt i c v x := by
  have hnumber : (t.state.get? c.path).bind Json.asNumber? = some x := by
    rw [hread, Option.bind_some, hx]
  have hcontrols : t.controls = w.controls := by
    rw [controls, hw]
    rfl
  have hlines : t.panelLines = w.lines t.state := by
    rw [panelLines, hw]
    rfl
  refine ⟨hread, ?_, fun steps => ?_⟩
  · rw [hlines]
    exact Widget.line_of_control (hcontrols ▸ hc) hnumber
  · have hcurrent : t.current c = x := by
      rw [current, hnumber]
      rfl
    unfold adjustControl
    rw [hc, ← hcurrent]

/-- **What a control writes is what it reads back.**  Let a session with a panel that is data have
been through anything.  An edit by one of its controls that goes to a setting of the effect goes to
the key that the path of the control names.  Where the path is the plain way to that key, the control
stands at the value afterwards.  A control for another key of the effect reads what it read before,
but for a place in a list that had to make room for the key. -/
theorem edit_is_read_back {f : Factory R σ} {spec : PanelSpec R} {options : SessionOptions R}
    {s₀ : Session R σ} (hs : create f (some (.spec spec)) options = .ok s₀) (ops : List (Op R))
    {i : Nat} {c : Control R} (hc : (s₀.run ops).controls[i]? = some c) {v : Json R} {x : R}
    (hv : v.asNumber? = some x) {action : EditAction R} {t : Session R σ}
    (hedit : (s₀.run ops).edit c.path v = (.ok action, t)) (haction : action.Configures) :
    ∃ key, keyOf? c.path = some key ∧
      (Text.pieces '/' c.path = ["", effectNamespace, key] → IsPlainStep key → t.StandsAt i c v x) ∧
      ∀ c' ∈ (s₀.run ops).controls, ∀ other, keyOf? c'.path = some other → other ≠ key →
        IsPlainStep other → ((s₀.run ops).state.HoldsList → indexStep? other = none) →
          t.state.get? c'.path = (s₀.run ops).state.get? c'.path := by
  have hcreated : Created f ((some spec).map .spec) options s₀ := created_of_create hs
  obtain ⟨hrun, hwidgets, -, -⟩ := hcreated.isDeclarative.run_setup ops
  obtain ⟨w, -, hw⟩ := hcreated.widgets_eq _ rfl
  obtain ⟨hkept, key, hkey, hstate⟩ := hrun.edit_configures hedit haction
  have hcontrols : t.controls = (s₀.run ops).controls := by rw [controls, hkept, ← controls]
  refine ⟨key, hkey, fun hpath hplain => ?_, fun c' _ other hother hne hplain hlist => ?_⟩
  · have hread : t.state.get? c.path = some v := by
      rw [hstate]
      exact PanelState.get?_withEffectValue_self hpath hplain _ v
    exact standsAt_of_get? (hkept.trans (hwidgets.trans hw)) (hcontrols ▸ hc) hread hv
  · rw [hstate]
    exact PanelState.get?_withEffectValue_of_ne (Bridge.ne_empty_of_keyOf? hkey) hother hne hplain
      hlist v

/-- A panel of sliders, each bound to one path. -/
def slidersPanel (state : Json Rat) (paths : List String) : PanelSpec Rat where
  root := "main"
  elements := ("main", { component := "Stack", children := paths }) ::
    paths.map fun path =>
      (path, { component := "CupertinoSlider"
               props := [("label", .str path), ("max", .int 10), ("min", .int 0),
                 ("value", .obj [(bindKey, .str path)])] })
  state := state

/-- A control stands where it was moved to; the one beside it shows the interval as before. -/
theorem chase_points_are_read_back :
    let panel := slidersPanel (.obj [("effect", .obj [("chaseCount", .int 2), ("speed", .int 80)])])
      ["/effect/chaseCount", "/effect/speed"]
    ∃ s t : Session Rat (Builtin Rat), ∃ c,
      create Builtin.chaseFactory (some (.spec panel)) {} = .ok s ∧ s.controls[0]? = some c ∧
        s.edit c.path (.int 5) = (.ok (.config "chaseCount" (.int 5)), t) ∧
          t.StandsAt 0 c (.int 5) 5 ∧ t.state.get? "/effect/speed" = some (.int 80) := by
  intro panel
  refine ⟨_, _, _, rfl, rfl, rfl, ?_⟩
  obtain ⟨key, hkey, hplain, hothers⟩ := @edit_is_read_back Rat (Builtin Rat) _ _
    Builtin.chaseFactory panel {} _ rfl [] 0 _ rfl (.int 5) 5 rfl (.config "chaseCount" (.int 5)) _
    rfl trivial
  obtain rfl : "chaseCount" = key := Option.some.inj hkey
  refine ⟨hplain rfl rfl, ?_⟩
  have hspeed := hothers _ (List.mem_cons_of_mem _ List.mem_cons_self) "speed" rfl (by decide) rfl
    fun _ => rfl
  exact hspeed

/-- A path with more steps, or with an escape in it, is written to but not read; and a list is gone
once there is a key beside it. -/
theorem branched_path_is_not_read_back :
    let panel := slidersPanel (.obj [("effect", .arr [.int 7])])
      ["/effect/chaseCount/now", "/effect/chase~1mark", "/effect/0"]
    ∃ s : Session Rat (Builtin Rat), create Builtin.chaseFactory (some (.spec panel)) {} = .ok s ∧
      s.controls.map (·.path) = ["/effect/chaseCount/now", "/effect/chase~1mark", "/effect/0"] ∧
      (∃ t, s.edit "/effect/chaseCount/now" (.int 3) = (.ok (.config "chaseCount" (.int 3)), t) ∧
        t.state.get? "/effect/chaseCount/now" = none ∧
        s.state.get? "/effect/0" = some (.int 7) ∧ t.state.get? "/effect/0" = none) ∧
      ∃ t, s.edit "/effect/chase~1mark" (.int 3) = (.ok (.config "chase~1mark" (.int 3)), t) ∧
        t.state.get? "/effect/chase~1mark" = none := by
  intro panel
  refine ⟨_, rfl, rfl, ⟨_, rfl, rfl, rfl, rfl⟩, ⟨_, rfl, rfl⟩⟩

end Session
end LedStrip
