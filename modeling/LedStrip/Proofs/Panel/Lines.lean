import LedStrip.Panel.Rendering

/-!
# Lines and controls

The lines of a panel and its controls come from two walks over the tree that count for themselves.
`Widget.placed` lists the widgets in the order of both walks, which turns each of them into a walk
along a list (`controls_eq`, `linesFrom_eq`), and `Widget.slots` lists the bound properties that can
be adjusted.  Number `i` of the slots is what control `i` moves and what the line with index `i`
shows (`lines_follow_controls`).
-/

namespace LedStrip

/-- A property that can be adjusted: of which widget, on a line of which indentation, bound to which
path. -/
inductive Slot (R : Type) where
  /-- The value of a slider. -/
  | value (indent : Nat) (w : Widget R) (path : String)
  | channel (indent : Nat) (w : Widget R) (ch : HsvChannel) (path : String)

namespace Slot

variable {R : Type}

def widget : Slot R → Widget R
  | value _ w _ => w
  | channel _ w _ _ => w

def prop : Slot R → String
  | value _ _ _ => "value"
  | channel _ _ ch _ => ch.prop

def path : Slot R → String
  | value _ _ path => path
  | channel _ _ _ path => path

variable [Scalar R]

/-- What moves the property. -/
def control : Slot R → Control R
  | value _ w path =>
    let number (name : String) (default : Nat) : R :=
      ((w.literal? name).bind Json.asNumber?).getD (Scalar.ofNat default)
    { label := ((w.literal? "label").bind Json.asString?).getD w.id
      path := path
      min := number "min" 0
      max := number "max" 100
      step := number "step" 1
      unit := ((w.literal? "unit").bind Json.asString?).getD "" }
  | channel _ _ ch path =>
    { label := ch.label, path := path, min := Scalar.ofNat 0, max := Scalar.ofNat ch.max,
      step := Scalar.ofNat ch.step, unit := ch.unit }

def indent : Slot R → Nat
  | value indent _ _ => indent
  | channel indent _ _ _ => indent + 1

/-- The text before the value. -/
def caption (state : PanelState R) : Slot R → String
  | value _ w _ => w.textOf state "label"
  | channel _ _ ch _ => ch.label

/-- What is shown where there is no number. -/
def blank : Slot R → String
  | value _ _ _ => "-"
  | channel _ _ _ _ => ""

/-- The number at the path. -/
def shown (state : PanelState R) (s : Slot R) : String :=
  (((state.get? s.path).bind Json.asNumber?).map Widget.numberText).getD s.blank

/-- The text after the value. -/
def remark (state : PanelState R) : Slot R → String
  | value _ w _ =>
    w.textOf state "unit" ++ " [" ++
      (w.numberTextOf state "min" "" ++ ".." ++ w.numberTextOf state "max" "") ++ "]"
  | channel _ _ ch _ => ch.unit

/-- The line that shows the property as control number `i`. -/
def line (state : PanelState R) (s : Slot R) (i : Nat) : PanelLine where
  indent := s.indent
  text := s.caption state ++ ": " ++ s.shown state ++ s.remark state
  swatch := none
  control := some i

end Slot

namespace Widget

variable {R : Type}

mutual

/-- The widgets of a tree with their indentations, parents before their children. -/
def placed (indent : Nat) : Widget R → List (Nat × Widget R)
  | mk id c props children =>
    (indent, mk id c props children) ::
      placedAll (childIndent (mk id c props children) indent) children

def placedAll (indent : Nat) : List (Widget R) → List (Nat × Widget R)
  | [] => []
  | w :: rest => placed indent w ++ placedAll indent rest

end

/-- The slots of one widget, its children aside. -/
def ownSlots (indent : Nat) (w : Widget R) : List (Slot R) :=
  match w.component with
  | .slider => (w.boundPath? "value").toList.map (.value indent w)
  | .colorPicker =>
    hsvChannelList.filterMap fun ch => (w.boundPath? ch.prop).map (.channel indent w ch)
  | _ => []

/-- The slots of a tree, from an indentation on. -/
def slotsFrom (indent : Nat) (w : Widget R) : List (Slot R) :=
  (w.placed indent).flatMap fun p => p.2.ownSlots p.1

def slots (w : Widget R) : List (Slot R) := w.slotsFrom 0

/-! ### Walks along a list -/

variable [Scalar R]

/-- Lines of some widgets from a control index on, with the next free index. -/
def rows (state : PanelState R) : Nat → List (Nat × Widget R) → List PanelLine × Nat
  | next, [] => ([], next)
  | next, (indent, w) :: rest =>
    let own := w.ownLines state indent next
    let below := rows state own.2 rest
    (own.1 ++ below.1, below.2)

theorem rows_append (state : PanelState R) (next : Nat) (ps qs : List (Nat × Widget R)) :
    rows state next (ps ++ qs) =
      ((rows state next ps).1 ++ (rows state (rows state next ps).2 qs).1,
        (rows state (rows state next ps).2 qs).2) := by
  induction ps generalizing next with
  | nil => rfl
  | cons p ps ih => simp only [List.cons_append, rows, ih, List.append_assoc]

mutual

theorem controls_eq (indent : Nat) :
    ∀ w : Widget R, w.controls = (w.placed indent).flatMap fun p => p.2.ownControls
  | mk id c props children => by
    rw [controls, placed, List.flatMap_cons, controlsOfAll_eq]

theorem controlsOfAll_eq (indent : Nat) :
    ∀ ws : List (Widget R), controlsOfAll ws = (placedAll indent ws).flatMap fun p => p.2.ownControls
  | [] => rfl
  | w :: ws => by
    rw [controlsOfAll, placedAll, List.flatMap_append, ← controls_eq indent w,
      ← controlsOfAll_eq indent ws]

end

mutual

theorem linesFrom_eq (state : PanelState R) (indent next : Nat) :
    ∀ w : Widget R, linesFrom state indent next w = rows state next (w.placed indent)
  | mk id c props children => by
    simp only [linesFrom, placed, rows, linesOfAll_eq]

theorem linesOfAll_eq (state : PanelState R) (indent next : Nat) :
    ∀ ws : List (Widget R), linesOfAll state indent next ws = rows state next (placedAll indent ws)
  | [] => rfl
  | w :: ws => by
    simp only [linesOfAll, placedAll, rows_append, linesFrom_eq, linesOfAll_eq]

end

/-- The lines of a widget stand together among the lines of the tree. -/
theorem ownLines_infix_rows {state : PanelState R} {p : Nat × Widget R}
    {ps : List (Nat × Widget R)} (hp : p ∈ ps) (next : Nat) :
    ∃ i, (p.2.ownLines state p.1 i).1 <:+: (rows state next ps).1 := by
  obtain ⟨before, after, rfl⟩ := List.append_of_mem hp
  refine ⟨(rows state next before).2, ?_⟩
  rw [rows_append]
  exact ⟨(rows state next before).1, _, by rw [rows, List.append_assoc]⟩

/-! ### The slots of one widget -/

/-- The lines of some slots, as controls from an index on. -/
def slotLines (state : PanelState R) (next : Nat) (slots : List (Slot R)) : List PanelLine :=
  (slots.zipIdx next).map fun p => p.1.line state p.2

theorem slotLines_cons (state : PanelState R) (next : Nat) (s : Slot R) (slots : List (Slot R)) :
    slotLines state next (s :: slots) = s.line state next :: slotLines state (next + 1) slots := rfl

theorem slotLines_append (state : PanelState R) (next : Nat) (xs ys : List (Slot R)) :
    slotLines state next (xs ++ ys) =
      slotLines state next xs ++ slotLines state (next + xs.length) ys := by
  simp only [slotLines, List.zipIdx_append, List.map_append]

/-- The lines that carry an index. -/
def adjustable (lines : List PanelLine) : List PanelLine := lines.filter (·.control.isSome)

theorem adjustable_cons (l : PanelLine) (ls : List PanelLine) :
    adjustable (l :: ls) = if l.control.isSome then l :: adjustable ls else adjustable ls :=
  List.filter_cons

theorem adjustable_append (xs ys : List PanelLine) :
    adjustable (xs ++ ys) = adjustable xs ++ adjustable ys := List.filter_append xs ys

theorem filterMap_adjustable (ls : List PanelLine) :
    (adjustable ls).filterMap PanelLine.control = ls.filterMap PanelLine.control := by
  rw [adjustable, List.filterMap_filter]
  refine congrArg (List.filterMap · ls) (funext fun l => ?_)
  cases h : l.control <;> simp

theorem filter_adjustable (ls : List PanelLine) (i : Nat) :
    (adjustable ls).filter (fun l => l.control = some i) =
      ls.filter (fun l => l.control = some i) := by
  rw [adjustable, List.filter_filter]
  refine List.filter_congr fun l _ => ?_
  cases h : l.control <;> simp

/-- A bound property is read at its path. -/
theorem number?_of_boundPath? {w : Widget R} {name path : String}
    (h : w.boundPath? name = some path) (state : PanelState R) :
    w.number? state name = (state.get? path).bind Json.asNumber? := by
  obtain ⟨p, hp, hpath⟩ := Option.bind_eq_some_iff.mp h
  cases p with
  | literal v => cases hpath
  | bound path' =>
    cases hpath
    simp only [number?, value?, hp, Option.bind_some, PropValue.resolve?]

theorem ownControls_eq (indent : Nat) (w : Widget R) :
    w.ownControls = (w.ownSlots indent).map Slot.control := by
  unfold ownControls ownSlots
  cases w.component with
  | slider => cases w.boundPath? "value" <;> rfl
  | colorPicker =>
    rw [List.map_filterMap]
    simp only [Option.map_map]
    rfl
  | _ => rfl

theorem channelLines_eq (w : Widget R) (state : PanelState R) (indent : Nat) (chs : List HsvChannel)
    (next : Nat) :
    let slots := chs.filterMap fun ch => (w.boundPath? ch.prop).map (Slot.channel indent w ch)
    adjustable (w.channelLines state (indent + 1) chs next).1 = slotLines state next slots ∧
      (w.channelLines state (indent + 1) chs next).2 = next + slots.length := by
  induction chs generalizing next with
  | nil => exact ⟨rfl, rfl⟩
  | cons ch chs ih =>
    intro slots
    rcases hb : w.boundPath? ch.prop with _ | path
    · have hslots : slots = chs.filterMap _ := List.filterMap_cons_none (by rw [hb]; rfl)
      rw [hslots]
      simpa [channelLines, hb, adjustable_cons] using ih next
    · obtain ⟨hlines, hnext⟩ := ih (next + 1)
      have hslots : slots = .channel indent w ch path :: chs.filterMap _ :=
        List.filterMap_cons_some (by rw [hb]; rfl)
      have hshown : w.numberTextOf state ch.prop "" = (Slot.channel indent w ch path).shown state := by
        rw [numberTextOf, number?_of_boundPath? hb]
        rfl
      rw [hslots]
      simp only [channelLines, hb, adjustable_cons, hlines, hnext, hshown, Option.isSome_some, if_true,
        List.length_cons]
      exact ⟨rfl, by omega⟩

/-- **The lines of one widget**: those that carry an index show its slots, in order. -/
theorem ownLines_slots (w : Widget R) (state : PanelState R) (indent next : Nat) :
    adjustable (w.ownLines state indent next).1 = slotLines state next (w.ownSlots indent) ∧
      (w.ownLines state indent next).2 = next + (w.ownSlots indent).length := by
  unfold ownLines ownSlots
  cases w.component with
  | stack => exact ⟨rfl, rfl⟩
  | card =>
    dsimp only
    split <;> exact ⟨rfl, rfl⟩
  | slider =>
    rcases hb : w.boundPath? "value" with _ | path
    · exact ⟨rfl, rfl⟩
    · have hshown : w.numberTextOf state "value" "-" = (Slot.value indent w path).shown state := by
        rw [numberTextOf, number?_of_boundPath? hb]
        rfl
      have htext (label value unit range : String) :
          label ++ ": " ++ (value ++ unit) ++ " [" ++ range ++ "]" =
            label ++ ": " ++ value ++ (unit ++ " [" ++ range ++ "]") := by
        simp only [String.append_assoc]
      rw [hshown]
      exact ⟨congrArg (fun text => [PanelLine.mk indent text none (some next)]) (htext _ _ _ _), rfl⟩
  | colorPicker => exact channelLines_eq w state indent hsvChannelList next
  | text => exact ⟨rfl, rfl⟩

/-! ### The slots of a tree -/

theorem rows_slots (state : PanelState R) (next : Nat) (ps : List (Nat × Widget R)) :
    adjustable (rows state next ps).1 =
        slotLines state next (ps.flatMap fun p => p.2.ownSlots p.1) ∧
      (rows state next ps).2 = next + (ps.flatMap fun p => p.2.ownSlots p.1).length := by
  induction ps generalizing next with
  | nil => exact ⟨rfl, rfl⟩
  | cons p ps ih =>
    obtain ⟨indent, w⟩ := p
    obtain ⟨hown, hnext⟩ := ownLines_slots w state indent next
    obtain ⟨hlines, hlast⟩ := ih (next + (w.ownSlots indent).length)
    simp only [rows, hnext, hlast, List.flatMap_cons, List.length_append]
    refine ⟨?_, by omega⟩
    rw [adjustable_append, hown, hlines, slotLines_append]

/-- The lines that carry an index show the slots of the tree. -/
theorem adjustable_lines (w : Widget R) (state : PanelState R) :
    adjustable (w.lines state) = slotLines state 0 w.slots := by
  rw [lines, linesFrom_eq]
  exact (rows_slots state 0 (w.placed 0)).1

/-- The controls move the slots of the tree. -/
theorem controls_eq_slots (w : Widget R) : w.controls = w.slots.map Slot.control := by
  rw [controls_eq 0, slots, slotsFrom, List.map_flatMap]
  exact congrArg (List.flatMap · (w.placed 0)) (funext fun p => ownControls_eq p.1 p.2)

omit [Scalar R] in
theorem boundPath?_of_mem_ownSlots {indent : Nat} {w : Widget R} {s : Slot R}
    (h : s ∈ w.ownSlots indent) : s.widget = w ∧ w.boundPath? s.prop = some s.path := by
  unfold ownSlots at h
  split at h
  · obtain ⟨path, hpath, rfl⟩ := List.mem_map.mp h
    exact ⟨rfl, Option.mem_toList.mp hpath⟩
  · obtain ⟨ch, -, hch⟩ := List.mem_filterMap.mp h
    obtain ⟨path, hpath, rfl⟩ := Option.map_eq_some_iff.mp hch
    exact ⟨rfl, hpath⟩
  · exact (List.not_mem_nil h).elim

/-- The widgets of a tree, parents before their children. -/
def nodes (w : Widget R) : List (Widget R) := (w.placed 0).map Prod.snd

omit [Scalar R] in
/-- A slot is a bound property of a widget of the tree. -/
theorem boundPath?_of_mem_slots {w : Widget R} {s : Slot R} (h : s ∈ w.slots) :
    s.widget ∈ w.nodes ∧ s.widget.boundPath? s.prop = some s.path := by
  obtain ⟨p, hp, hs⟩ := List.mem_flatMap.mp h
  obtain ⟨hw, hbound⟩ := boundPath?_of_mem_ownSlots hs
  rw [hw]
  exact ⟨List.mem_map_of_mem hp, hbound⟩

/-! ### Indices -/

theorem control_slotLines (state : PanelState R) (next : Nat) (slots : List (Slot R)) :
    (slotLines state next slots).filterMap PanelLine.control =
      List.range' next slots.length := by
  induction slots generalizing next with
  | nil => rfl
  | cons s slots ih =>
    have hcontrol : (s.line state next).control = some next := rfl
    rw [slotLines_cons, List.filterMap_cons_some hcontrol, ih, List.length_cons, List.range'_succ]

theorem filter_slotLines_of_lt {i next : Nat} (h : i < next) (state : PanelState R)
    (slots : List (Slot R)) :
    (slotLines state next slots).filter (fun l => l.control = some i) = [] := by
  refine List.filter_eq_nil_iff.mpr fun l hl => ?_
  have hmem : ∃ j ∈ List.range' next slots.length, l.control = some j := by
    rw [← control_slotLines state next slots]
    obtain ⟨⟨s, j⟩, -, rfl⟩ := List.mem_map.mp hl
    exact ⟨j, List.mem_filterMap.mpr ⟨_, hl, rfl⟩, rfl⟩
  obtain ⟨j, hj, hl⟩ := hmem
  have := (List.mem_range'_1.mp hj).1
  simp only [hl, Option.some.injEq, decide_eq_true_eq]
  omega

theorem filter_slotLines (state : PanelState R) (next i : Nat) (slots : List (Slot R)) :
    (slotLines state next slots).filter (fun l => l.control = some (next + i)) =
      (slots[i]?.map fun s => s.line state (next + i)).toList := by
  induction slots generalizing next i with
  | nil => rfl
  | cons s slots ih =>
    rw [slotLines_cons]
    cases i with
    | zero =>
      rw [Nat.add_zero, List.filter_cons_of_pos (by simp [Slot.line]),
        filter_slotLines_of_lt (Nat.lt_succ_self next)]
      rfl
    | succ i =>
      have hne : (Slot.line state s next).control ≠ some (next + (i + 1)) := by
        simp [Slot.line]
      rw [List.filter_cons_of_neg (by simpa using hne), List.getElem?_cons_succ,
        show next + (i + 1) = next + 1 + i by omega]
      exact ih (next + 1) i

/-- The line with an index is that of the slot, if there is one. -/
theorem filter_lines (w : Widget R) (state : PanelState R) (i : Nat) :
    (w.lines state).filter (fun l => l.control = some i) =
      (w.slots[i]?.map fun s => s.line state i).toList := by
  have hline := filter_slotLines state 0 i w.slots
  rw [Nat.zero_add] at hline
  rw [← filter_adjustable, adjustable_lines, hline]

/-- The line of a slot is the one with its index. -/
theorem line_of_slot {w : Widget R} {i : Nat} {s : Slot R} (h : w.slots[i]? = some s)
    (state : PanelState R) :
    (w.lines state).filter (fun l => l.control = some i) = [s.line state i] := by
  rw [filter_lines, h]
  rfl

/-- **The lines that can be adjusted are the controls.**  The indices on the lines of a panel count
its controls from the first to the last, whatever the state is.  The line with index `i` shows the
property that control `i` moves: both belong to one slot, and the number on the line is the one at
the path of the control. -/
theorem lines_follow_controls (w : Widget R) (state : PanelState R) :
    (w.lines state).filterMap PanelLine.control = List.range w.controls.length ∧
      ∀ i c, w.controls[i]? = some c →
        ∃ s : Slot R, s.widget ∈ w.nodes ∧ s.widget.boundPath? s.prop = some c.path ∧
          s.control = c ∧ (w.lines state).filter (fun l => l.control = some i) = [s.line state i] ∧
          (s.line state i).text =
            s.caption state ++ ": " ++
              (((state.get? c.path).bind Json.asNumber?).map numberText).getD s.blank ++
              s.remark state := by
  refine ⟨?_, fun i c hc => ?_⟩
  · rw [← filterMap_adjustable, adjustable_lines, control_slotLines, controls_eq_slots,
      List.length_map, List.range_eq_range']
  · rw [controls_eq_slots, List.getElem?_map] at hc
    obtain ⟨s, hs, rfl⟩ := Option.map_eq_some_iff.mp hc
    obtain ⟨hw, hbound⟩ := boundPath?_of_mem_slots (List.mem_of_getElem? hs)
    have hpath : s.control.path = s.path := by cases s <;> rfl
    have hline := filter_slotLines state 0 i w.slots
    rw [Nat.zero_add, hs] at hline
    refine ⟨s, hw, by rw [hpath, hbound], rfl, ?_, by rw [hpath]; rfl⟩
    rw [← filter_adjustable, adjustable_lines, hline]
    rfl

/-- Of two sliders and a color picker, the first slider and two of the channels are bound.  The third
control is the brightness, and so is the line with index two. -/
theorem third_control_is_brightness :
    let slider (value : PropValue Rat) : Widget Rat := .mk "points" .slider [("value", value)] []
    let picker : Widget Rat :=
      .mk "color" .colorPicker
        [("brightness", .bound "/effect/brightness"), ("hue", .bound "/effect/hue"),
         ("saturation", .literal (.int 100))] []
    let w : Widget Rat :=
      .mk "main" .card [] [slider (.bound "/effect/chaseCount"), slider (.literal (.int 3)), picker]
    let c : Control Rat := ⟨"Brightness", "/effect/brightness", 0, 100, 1, "%"⟩
    ∀ state, w.controls[2]? = some c ∧
      (w.lines state).filterMap PanelLine.control = [0, 1, 2] ∧
      ∃ s : Slot Rat, s.widget ∈ w.nodes ∧ s.control = c ∧
        (w.lines state).filter (fun l => l.control = some 2) = [s.line state 2] := by
  intro slider picker w c state
  obtain ⟨hindices, hlines⟩ := lines_follow_controls w state
  obtain ⟨s, hw, -, hc, hline, -⟩ := hlines 2 c rfl
  exact ⟨rfl, hindices, s, hw, hc, hline⟩

end Widget
end LedStrip
