import LedStrip.Proofs.Panel.Lines
import LedStrip.Proofs.Session.Runs
import LedStrip.Terminal.View

/-!
# The selection of a preview

The view counts its selection for itself, and any edit may rebuild the panel with other controls.
What an action leaves behind is brought within the controls (`selects_of_apply`), and nothing but an
action changes them, so that the selection is one of the controls all along (`Selects.run`).  One
line of the panel is marked then, and a step of the selected control reaches it.

While a panel keeps its number of controls, the selection goes around them (`selected_of_steady`).
-/

namespace LedStrip

variable {R σ : Type} [Scalar R] [Effect R σ]

/-! ### Edits of controls -/

namespace Session

/-- An edit asks for no control, so that none is missing. -/
theorem edit_ne_noControl (s : Session R σ) (path : String) (v : Json R) (index : Nat) :
    (s.edit path v).1 ≠ .error (.noControl index) := by
  obtain ⟨answer, state, scheduler, hto, hedit⟩ := s.exists_editsTo path v
  rw [hedit, settle]
  split
  · intro he
    obtain ⟨_, he⟩ := hto.exists_effect he
    cases he
  · intro he
    cases he

omit [Effect R σ] in
/-- What number `index` among the controls moves. -/
def slot? (s : Session R σ) (index : Nat) : Option (Slot R) :=
  s.widgets.bind fun w => w.slots[index]?

omit [Effect R σ] in
theorem getElem?_controls (s : Session R σ) (index : Nat) :
    s.controls[index]? = (s.slot? index).map Slot.control := by
  unfold controls slot?
  cases s.widgets with
  | none => rfl
  | some w => exact (congrArg (·[index]?) w.controls_eq_slots).trans List.getElem?_map

omit [Effect R σ] in
/-- The line with an index is that of the slot. -/
theorem filter_panelLines (s : Session R σ) (index : Nat) :
    s.panelLines.filter (fun l => l.control = some index) =
      ((s.slot? index).map fun slot => slot.line s.state index).toList := by
  unfold panelLines slot?
  cases s.widgets with
  | none => rfl
  | some w => exact w.filter_lines s.state index

/-- Steps of a control that is there are an edit. -/
theorem adjustControl_eq {s : Session R σ} {index : Nat} {c : Control R}
    (h : s.controls[index]? = some c) (steps : Int) :
    s.adjustControl index steps = s.edit c.path (numberValue (c.adjust (s.current c) steps)) := by
  rw [adjustControl, h]

end Session

namespace View

/-! ### Places -/

theorem moved_lt {count : Nat} (h : 0 < count) (selected : Nat) (places : Int) :
    moved selected places count < count := by
  rw [moved, if_pos h]
  have := Int.emod_nonneg ((selected : Int) + places) (b := count) (by omega)
  have := Int.emod_lt_of_pos ((selected : Int) + places) (b := count) (by omega)
  omega

/-- All the way around is back again. -/
theorem moved_of_dvd {selected count : Nat} {places : Int} (h : 0 < count → selected < count)
    (hdvd : (count : Int) ∣ places) : moved selected places count = selected := by
  obtain ⟨k, rfl⟩ := hdvd
  rw [moved]
  split
  · next hpos =>
    rw [Int.add_mul_emod_self_left, Int.emod_eq_of_lt (by omega) (by exact_mod_cast h hpos),
      Int.toNat_natCast]
  · rfl

theorem moved_moved (selected : Nat) (p q : Int) (count : Nat) :
    moved (moved selected p count) q count = moved selected (p + q) count := by
  by_cases hpos : 0 < count
  · have hplace : ((moved selected p count : Nat) : Int) = (selected + p) % (count : Int) := by
      rw [moved, if_pos hpos, Int.toNat_of_nonneg (Int.emod_nonneg _ (by omega))]
    rw [moved, if_pos hpos, hplace, Int.emod_add_emod, Int.add_assoc, moved, if_pos hpos]
  · simp only [moved, if_neg hpos]

theorem within_lt {selected count : Nat} (h : 0 < count) : within selected count < count := by
  rw [within]
  split <;> omega

theorem within_eq {selected count : Nat} (h : 0 < count → selected < count) :
    within selected count = selected := by
  rw [within, if_neg]
  rintro ⟨hpos, hle⟩
  have := h hpos
  omega

/-! ### Inputs -/

/-- What a preview is given. -/
inductive Input where
  | wait (ms : Nat)
  | act (a : Action)
deriving DecidableEq, Repr

/-- The places by which an input moves the selection. -/
def Input.places : Input → Int
  | .act (.select places) => places
  | _ => 0

/-- The view and the session after an input; `none` is the end of the preview. -/
def feed (p : View × Session R σ) : Input → Option (View × Session R σ)
  | .wait ms => some (p.1, p.2.elapse ms)
  | .act a => p.1.apply p.2 a

/-- The view and the session after some inputs, in order. -/
def run (p : View × Session R σ) (inputs : List Input) : Option (View × Session R σ) :=
  inputs.foldlM feed p

/-- Keys are the actions that they ask for. -/
theorem pass_eq (v : View) (s : Session R σ) (ms : Nat) (keys : List Key) :
    v.pass s ms keys = run (v, s) (.wait ms :: (keys.filterMap Key.action?).map .act) := by
  have hkeys : ∀ p : View × Session R σ, keys.foldlM (fun p k => p.1.press p.2 k) p =
      run p ((keys.filterMap Key.action?).map .act) := by
    induction keys with
    | nil => exact fun p => rfl
    | cons k keys ih =>
      intro p
      rw [List.foldlM_cons]
      unfold press
      cases hk : k.action? with
      | none =>
        rw [List.filterMap_cons_none hk]
        exact ih p
      | some a =>
        rw [List.filterMap_cons_some hk]
        exact congrArg (p.1.apply p.2 a).bind (funext ih)
  exact hkeys _

/-- The selection is one of the controls, if there are any. -/
def Selects (p : View × Session R σ) : Prop :=
  0 < p.2.controls.length → p.1.selected < p.2.controls.length

omit [Effect R σ] in
theorem selects_default (s : Session R σ) : Selects (({} : View), s) := id

theorem selects_of_apply {v : View} {s : Session R σ} {a : Action} {q : View × Session R σ}
    (h : v.apply s a = some q) : Selects q := by
  obtain ⟨⟨selected, message, t⟩, -, rfl⟩ := Option.map_eq_some_iff.mp h
  exact fun hpos => within_lt hpos

theorem Selects.feed {p q : View × Session R σ} {i : Input} (hp : Selects p)
    (h : feed p i = some q) : Selects q := by
  cases i with
  | wait ms =>
    cases h
    exact hp
  | act a => exact selects_of_apply h

theorem Selects.run {p q : View × Session R σ} {inputs : List Input} (hp : Selects p)
    (h : run p inputs = some q) : Selects q := by
  induction inputs generalizing p with
  | nil =>
    cases h
    exact hp
  | cons i inputs ih =>
    obtain ⟨r, hr, hq⟩ := Option.bind_eq_some_iff.mp h
    exact ih (hp.feed hr) hq

/-! ### What is drawn -/

/-- Whether a step draws in the colors of the selection. -/
def marks : Draw → Bool
  | .styled _ (some .black) (some .white) => true
  | _ => false

omit [Scalar R] [Effect R σ] in
theorem filter_header (s : Session R σ) : (header s).filter marks = [] := by
  cases h : s.status <;> simp [header, marks, statusInk, h]

theorem filter_strip (top : Nat) (rows : List (List Rgb)) : (strip top rows).filter marks = [] := by
  simp [strip, List.filter_flatMap, marks]

theorem filter_canvas (top : Nat) (cells : List ((Nat × Nat) × Rgb)) :
    (canvas top cells).filter marks = [] := by
  simp [canvas, List.filter_flatMap, marks, inkOf]

omit [Effect R σ] in
theorem filter_ledArea (s : Session R σ) (top : Nat) : (ledArea s top).1.filter marks = [] := by
  unfold ledArea
  split
  · exact filter_canvas _ _
  · exact filter_strip _ _

omit [Scalar R] [Effect R σ] in
theorem filter_footer (v : View) (s : Session R σ) (row : Nat) : (v.footer s row).filter marks = [] := by
  unfold footer
  split <;> rfl

/-- What is drawn for a line in the colors of the selection. -/
def mark (l : PanelLine) : Draw := .styled s!"▶ {l.text}" (some .black) (some .white)

theorem filter_panelLine (v : View) (row : Nat) (l : PanelLine) :
    (v.panelLine row l).filter marks = if v.highlights l then [mark l] else [] := by
  unfold panelLine
  cases l.swatch <;> cases v.highlights l <;> rfl

theorem filter_panelArea (v : View) (top : Nat) (lines : List PanelLine) :
    (v.panelArea top lines).filter marks = (lines.filter v.highlights).map mark := by
  have hlines : (v.panelArea top lines).filter marks =
      (lines.zipIdx.map Prod.fst).flatMap fun l => if v.highlights l then [mark l] else [] := by
    rw [panelArea, List.filter_flatMap, List.flatMap_map]
    exact congrArg (List.flatMap · lines.zipIdx) (funext fun p => filter_panelLine v _ p.1)
  rw [hlines, List.zipIdx_map_fst]
  clear hlines
  induction lines with
  | nil => rfl
  | cons l lines ih =>
    rw [List.flatMap_cons, ih, List.filter_cons]
    split <;> rfl

omit [Effect R σ] in
/-- The only marks on the screen are on the lines that show the selected control. -/
theorem filter_screen (v : View) (s : Session R σ) :
    (v.screen s).filter marks = (s.panelLines.filter v.highlights).map mark := by
  unfold screen
  rw [List.filter_append, List.filter_append, List.filter_append, filter_header, filter_ledArea,
    filter_panelArea, filter_footer, List.append_nil]
  rfl

/-! ### The selected control -/

variable {v : View} {s : Session R σ}

omit [Effect R σ] in
theorem exists_control (h : Selects (v, s)) (hpos : 0 < s.controls.length) :
    ∃ c, s.controls[v.selected]? = some c := ⟨_, List.getElem?_eq_getElem (h hpos)⟩

theorem apply_adjust_of_empty (h : s.controls = []) (steps : Int) :
    v.apply s (.adjust steps) = some ({ v with message := none }, s) := by
  have hact : act v.selected s (.adjust steps) = some (v.selected, none, s) := by
    rw [act, h]
    rfl
  have hwithin : within v.selected s.controls.length = v.selected :=
    within_eq fun hpos => absurd hpos (by simp [h])
  rw [apply, hact, Option.map_some]
  dsimp only
  rw [hwithin]

/-- An adjustment is an edit at the path of the selected control. -/
theorem apply_adjust {c : Control R} (h : s.controls[v.selected]? = some c) (steps : Int) :
    ∃ answer t, s.edit c.path (Session.numberValue (c.adjust (s.current c) steps)) = (answer, t) ∧
      s.adjustControl v.selected steps = (answer, t) ∧
      (∀ index, answer ≠ .error (.noControl index)) ∧
      v.apply s (.adjust steps) =
        some ({ selected := within v.selected t.controls.length,
                message := messageOf SessionError.message answer }, t) := by
  have hadjust := Session.adjustControl_eq h steps
  have hne : s.controls.isEmpty = false := by
    cases hs : s.controls with
    | nil =>
      rw [hs] at h
      cases h
    | cons => rfl
  refine ⟨_, _, rfl, hadjust, Session.edit_ne_noControl s _ _, ?_⟩
  rw [apply, act, if_neg (by rw [hne]; exact nofun), hadjust]
  rfl

theorem apply_select (v : View) (s : Session R σ) (places : Int) :
    v.apply s (.select places) =
      some ({ selected := moved v.selected places s.controls.length, message := none }, s) := by
  rw [apply, act, Option.map_some]
  dsimp only
  rw [within_eq fun hpos => moved_lt hpos _ _]

omit [Effect R σ] in
/-- The highlighted line is the one of the selected control. -/
theorem filter_highlights (v : View) (s : Session R σ) :
    s.panelLines.filter v.highlights =
      ((s.slot? v.selected).map fun slot => slot.line s.state v.selected).toList := by
  rw [← s.filter_panelLines]
  exact List.filter_congr fun l _ => Bool.eq_iff_iff.mpr (beq_iff_eq.trans decide_eq_true_iff.symm)

/-! ### Around the controls -/

/-- The panel has `count` controls before and after every input. -/
def Steady (count : Nat) (p : View × Session R σ) : List Input → Prop
  | [] => p.2.controls.length = count
  | i :: inputs => p.2.controls.length = count ∧ ∀ q, feed p i = some q → Steady count q inputs

/-- The places by which some inputs move the selection. -/
def places : List Input → Int
  | [] => 0
  | i :: inputs => i.places + places inputs

theorem places_replicate (n : Nat) (i : Input) : places (List.replicate n i) = n * i.places := by
  induction n with
  | zero => exact (Int.zero_mul _).symm
  | succ n ih =>
    rw [List.replicate_succ, places, ih, Int.natCast_succ, Int.add_mul, Int.one_mul, Int.add_comm]

theorem Steady.length_eq {count : Nat} {p : View × Session R σ} {inputs : List Input}
    (h : Steady count p inputs) : p.2.controls.length = count := by
  cases inputs with
  | nil => exact h
  | cons i inputs => exact h.1

theorem selected_of_act {selected selected' : Nat} {s t : Session R σ} {a : Action}
    {message : Option String} (hsel : 0 < s.controls.length → selected < s.controls.length)
    (h : act selected s a = some (selected', message, t)) :
    selected' = moved selected (Input.act a).places s.controls.length := by
  have hstays : moved selected 0 s.controls.length = selected := moved_of_dvd hsel (Int.dvd_zero _)
  cases a with
  | quit => cases h
  | select places =>
    cases h
    rfl
  | adjust steps =>
    rw [act] at h
    split at h
    · cases h
      exact hstays.symm
    · simp only [Option.some.injEq, Prod.mk.injEq] at h
      exact h.1.symm.trans hstays.symm
  | _ =>
    simp only [act, Option.some.injEq, Prod.mk.injEq] at h
    exact h.1.symm.trans hstays.symm

/-- One input moves the selection by its places, if the number of controls stays. -/
theorem selected_of_feed {count : Nat} {p q : View × Session R σ} {i : Input} (hp : Selects p)
    (hcount : p.2.controls.length = count) (hcount' : q.2.controls.length = count)
    (h : feed p i = some q) : q.1.selected = moved p.1.selected i.places count := by
  subst hcount
  cases i with
  | wait ms =>
    cases h
    exact (moved_of_dvd hp (Int.dvd_zero _)).symm
  | act a =>
    obtain ⟨⟨selected, message, t⟩, hact, rfl⟩ := Option.map_eq_some_iff.mp h
    show within selected t.controls.length = _
    rw [selected_of_act hp hact, show t.controls.length = _ from hcount']
    exact within_eq fun hpos => moved_lt hpos _ _

theorem selected_of_steady {count : Nat} {p q : View × Session R σ} {inputs : List Input}
    (hp : Selects p) (hsteady : Steady count p inputs) (h : run p inputs = some q) :
    q.1.selected = moved p.1.selected (places inputs) count := by
  induction inputs generalizing p with
  | nil =>
    cases h
    exact (moved_of_dvd (hsteady ▸ hp) (Int.dvd_zero _)).symm
  | cons i inputs ih =>
    obtain ⟨r, hr, hq⟩ := Option.bind_eq_some_iff.mp h
    obtain ⟨hcount, hrest⟩ := hsteady
    have hsteady' := hrest r hr
    rw [ih (hp.feed hr) hsteady' hq, selected_of_feed hp hcount hsteady'.length_eq hr, moved_moved]
    rfl

/-- Moves alone leave the session. -/
theorem run_select (v : View) (s : Session R σ) (moves : List Int) :
    ∃ v', run (v, s) (moves.map fun p => .act (.select p)) = some (v', s) ∧
      Steady s.controls.length (v, s) (moves.map fun p => .act (.select p)) := by
  induction moves generalizing v with
  | nil => exact ⟨v, rfl, rfl⟩
  | cons p moves ih =>
    obtain ⟨v', hrun, hsteady⟩ := ih { selected := moved v.selected p s.controls.length }
    have hfeed := apply_select v s p
    refine ⟨v', ?_, rfl, fun q hq => ?_⟩
    · rw [List.map_cons, run, List.foldlM_cons, feed, hfeed]
      exact hrun
    · cases hfeed.symm.trans hq
      exact hsteady

theorem exists_run_select (h : Selects (v, s)) (moves : List Int)
    (hmoves : (s.controls.length : Int) ∣ places (moves.map fun p => .act (.select p))) :
    ∃ v', run (v, s) (moves.map fun p => .act (.select p)) = some (v', s) ∧
      v'.selected = v.selected := by
  obtain ⟨v', hrun, hsteady⟩ := run_select v s moves
  exact ⟨v', hrun, (selected_of_steady h hsteady hrun).trans (moved_of_dvd h hmoves)⟩

/-- **The selection is one of the controls.**  Whatever a preview was given, and whatever its panel
has become since:

* with controls there is a selected one; one line of the panel is highlighted, which is the one of
  that control, and the only mark on the screen; and an adjustment is an edit at the path of the
  control, never one of a missing control;
* without controls nothing is marked, and an adjustment does nothing;
* as long as the number of controls stays, the selection goes around them by as many places as it
  is told;
* so it returns after as many places as there are controls, and after a place and a place back. -/
theorem selection_is_control (s : Session R σ) (inputs : List Input) {v : View} {t : Session R σ}
    (h : run ({}, s) inputs = some (v, t)) :
    (t.controls ≠ [] →
      (v.selected < t.controls.length ∧
        ∃ l, t.panelLines.filter v.highlights = [l] ∧ l.control = some v.selected ∧
          (v.screen t).filter marks = [mark l]) ∧
      ∃ c, t.controls[v.selected]? = some c ∧ ∀ steps, ∃ answer u,
        t.edit c.path (Session.numberValue (c.adjust (t.current c) steps)) = (answer, u) ∧
        t.adjustControl v.selected steps = (answer, u) ∧
        (∀ index, answer ≠ .error (.noControl index)) ∧
        v.apply t (.adjust steps) =
          some ({ selected := within v.selected u.controls.length,
                  message := messageOf SessionError.message answer }, u)) ∧
    (t.controls = [] → (v.screen t).filter marks = [] ∧
      ∀ steps, v.apply t (.adjust steps) = some ({ v with message := none }, t)) ∧
    (∀ inputs' q, Steady t.controls.length (v, t) inputs' → run (v, t) inputs' = some q →
      q.1.selected = moved v.selected (places inputs') t.controls.length) ∧
    (∃ v', run (v, t) (List.replicate t.controls.length (.act (.select 1))) = some (v', t) ∧
      v'.selected = v.selected) ∧
    ∃ v', run (v, t) [.act (.select 1), .act (.select (-1))] = some (v', t) ∧
      v'.selected = v.selected := by
  have hsel : Selects (v, t) := (selects_default s).run h
  refine ⟨fun hne => ?_, fun hempty => ⟨?_, apply_adjust_of_empty hempty⟩,
    fun inputs' q => selected_of_steady hsel, ?_, ?_⟩
  · obtain ⟨c, hc⟩ := exists_control hsel (List.length_pos_iff.mpr hne)
    obtain ⟨slot, hslot, -⟩ := Option.map_eq_some_iff.mp ((t.getElem?_controls _).symm.trans hc)
    have hline : t.panelLines.filter v.highlights = [slot.line t.state v.selected] := by
      rw [filter_highlights, hslot]
      rfl
    refine ⟨⟨hsel (List.length_pos_iff.mpr hne), _, hline, rfl, ?_⟩, c, hc, apply_adjust hc⟩
    rw [filter_screen, hline]
    rfl
  · have hslot : t.slot? v.selected = none := by
      rw [← Option.map_eq_none_iff, ← t.getElem?_controls, hempty]
      rfl
    rw [filter_screen, filter_highlights, hslot]
    rfl
  · have := exists_run_select hsel (List.replicate t.controls.length 1)
    rw [List.map_replicate, places_replicate] at this
    exact this (Int.dvd_mul_right _ _)
  · exact exists_run_select hsel [1, -1] (Int.dvd_zero _)

/-! ### A panel with rows -/

/-- A panel with one slider, which sets the number of rows, and with another one in two rows. -/
def rowsPanel : EffectPanel Rat :=
  let slider : Script.Expr :=
    .map ["type", "props"]
      [.str "CupertinoSlider",
        .map ["label", "min", "max", "value"]
          [.str "Rows", .int 1, .int 2, .map [bindKey] [.str "/effect/rows"]]]
  let stack (children : List Script.Expr) : Script.Expr :=
    .map ["type", "children"] [.str "Stack", .array children]
  .script
    { entry := "panel"
      program :=
        { functions :=
            [{ name := "panel", params := ["state"],
               body :=
                .ifElse (.binary .eq (.chain (.var "state") [.prop "effect", .prop "rows"]) (.int 2))
                  (stack [slider, slider]) (stack [slider]) }]
          body := [] }
      state := .obj [("effect", .obj [("rows", .int 2)])] }

/-- The second slider takes itself away, and the first one is selected. -/
theorem second_slider_goes :
    ∃ (s t : Session Rat (Builtin Rat)) (v : View),
      Session.create Builtin.chaseFactory (some rowsPanel) {} = .ok s ∧ s.controls.length = 2 ∧
        ({} : View).pass s 0 [{ code := .down }, { code := .left }] = some (v, t) ∧
        t.controls.length = 1 ∧ v.selected < 1 ∧
        ∃ l, t.panelLines.filter v.highlights = [l] ∧ (v.screen t).filter marks = [mark l] := by
  have hrun :
      ((Session.create Builtin.chaseFactory (some rowsPanel) {}).toOption.map
        fun s : Session Rat (Builtin Rat) => (s.controls.length,
          (({} : View).pass s 0 [{ code := .down }, { code := .left }]).map fun q =>
            q.2.controls.length)) = some (2, some 1) := by
    decide +kernel
  cases hs : Session.create Builtin.chaseFactory (some rowsPanel) {} with
  | error e =>
    rw [hs] at hrun
    cases hrun
  | ok s =>
    rw [hs] at hrun
    obtain ⟨hbefore, hafter⟩ := Prod.mk.inj (Option.some.inj hrun)
    obtain ⟨⟨v, t⟩, hpass, hcount⟩ := Option.map_eq_some_iff.mp hafter
    have hne : t.controls ≠ [] := fun h => by
      rw [h] at hcount
      cases hcount
    have hkeys := hpass
    rw [pass_eq] at hkeys
    obtain ⟨⟨hlt, l, hline, -, hmark⟩, -⟩ := (selection_is_control s _ hkeys).1 hne
    exact ⟨s, t, v, rfl, hbefore, hpass, hcount, hcount ▸ hlt, l, hline, hmark⟩

end View
end LedStrip
