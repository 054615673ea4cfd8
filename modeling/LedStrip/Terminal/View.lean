import LedStrip.Session
import LedStrip.Terminal.Key
import LedStrip.Terminal.Screen

/-!
# The view on a session

A view is the selected control and the last message.  `View.apply` lets an action act on the session; afterwards the
selection is one of the controls, if there are any.  `View.screen` draws the session: a header, the strip or the device,
the panel, and a line of help that gives way to an error.
-/

namespace LedStrip

structure View where
  /-- Index of the selected control. -/
  selected : Nat := 0
  message : Option String := none
deriving DecidableEq, Repr

namespace View

variable {R σ : Type} [Scalar R] [Effect R σ]

/-! ### Actions -/

/-- The selection, moved by some places around `count` controls. -/
def moved (selected : Nat) (places : Int) (count : Nat) : Nat :=
  if 0 < count then ((selected + places) % (count : Int)).toNat else selected

/-- The selection within `count` controls. -/
def within (selected count : Nat) : Nat := if 0 < count ∧ count ≤ selected then count - 1 else selected

/-- What went wrong, if something did. -/
def messageOf {ε α : Type} (text : ε → String) : Except ε α → Option String
  | .ok _ => none
  | .error e => some (text e)

/-- What an action does: the new selection, a message and the session after it; `none` asks to end the preview. -/
def act (selected : Nat) (s : Session R σ) : Action → Option (Nat × Option String × Session R σ)
  | .quit => none
  | .toggleRun =>
    let (answer, s) := s.toggleRun
    some (selected, messageOf EffectError.message answer, s)
  | .togglePause => some (selected, none, s.togglePause.2)
  | .speed ms =>
    let (answer, s) := s.nudgeSpeed ms
    some (selected, messageOf SessionError.message answer, s)
  | .select places => some (moved selected places s.controls.length, none, s)
  | .adjust steps =>
    if s.controls.isEmpty then some (selected, none, s)
    else
      let (answer, s) := s.adjustControl selected steps
      some (selected, messageOf SessionError.message answer, s)

/-- Let an action act.  The panel may have fewer controls afterwards. -/
def apply (v : View) (s : Session R σ) (a : Action) : Option (View × Session R σ) :=
  (act v.selected s a).map fun (selected, message, s) =>
    ({ selected := within selected s.controls.length, message }, s)

/-- Let a key act; a key that asks for nothing changes nothing. -/
def press (v : View) (s : Session R σ) (k : Key) : Option (View × Session R σ) :=
  match k.action? with
  | none => some (v, s)
  | some a => v.apply s a

/-- Let time pass, then the keys that were pressed meanwhile act in order; `none` ends the preview. -/
def pass (v : View) (s : Session R σ) (ms : Nat) (keys : List Key) : Option (View × Session R σ) :=
  keys.foldlM (fun (v, s) k => v.press s k) (v, s.elapse ms)

/-! ### Drawing -/

/-- LEDs of a strip in one row. -/
def stripColumns : Nat := 24

/-- Width of an LED of a strip. -/
def cellWidth : Nat := 3

def canvasColumns : Nat := 48

def canvasRows : Nat := 18

/-- What an LED that is off looks like. -/
def dim : Rgb := ⟨40, 40, 40⟩

def background : Rgb := ⟨20, 20, 20⟩

def help : String := "space start/stop  p pause  +/- speed  ↑↓ select  ←→ adjust  q quit"

/-- Rows of at most `columns` LEDs; no columns count as one. -/
def rowsOf (columns : Nat) : Nat → List Rgb → List (List Rgb)
  | 0, _ => []
  | _ + 1, [] => []
  | fuel + 1, leds => leds.take (max columns 1) :: rowsOf columns fuel (leds.drop (max columns 1))

def stripRows (leds : Frame) (columns : Nat) : List (List Rgb) :=
  rowsOf columns leds.pixels.length leds.pixels

def inkOf (c : Rgb) : Ink := .rgb (if c.isLit then c else dim)

def statusInk : Status → Ink
  | .running => .green
  | .paused => .yellow
  | .idle => .grey

omit [Scalar R] [Effect R σ] in
def header (s : Session R σ) : List Draw :=
  [.moveTo 0 0, .styled s!" {s.name} " (some .white) (some .darkGrey),
   .styled s!" {s.status.name} " (some .black) (some (statusInk s.status)),
   .styled s!" {s.speed} ms " (some .white) (some .darkGrey), .clearToLineEnd]

/-- Each row of a strip from a row of the screen on. -/
def strip (top : Nat) (rows : List (List Rgb)) : List Draw :=
  rows.zipIdx.flatMap fun (row, i) =>
    .moveTo 1 (top + i) ::
      (row.flatMap fun c =>
        [.styled (Text.spaces cellWidth) none (some (inkOf c)), .styled " " none (some (.rgb background))]) ++
      [.clearToLineEnd]

/-- The canvas of a device, its LEDs on it. -/
def canvas (top : Nat) (cells : List ((Nat × Nat) × Rgb)) : List Draw :=
  ((List.range canvasRows).flatMap fun r =>
    [.moveTo 1 (top + r), .styled (Text.spaces canvasColumns) none (some (.rgb background)),
     .clearToLineEnd]) ++
  cells.flatMap fun (cell, c) =>
    [.moveTo (1 + cell.1) (top + cell.2), .styled "●" (some (inkOf c)) (some (.rgb background))]

/-- The LEDs of a session, and the row below them. -/
def ledArea (s : Session R σ) (top : Nat) : List Draw × Nat :=
  match s.device.filter fun d => !d.placements.isEmpty with
  | some d => (canvas top (d.cells s.leds canvasColumns canvasRows), top + canvasRows)
  | none =>
    let rows := stripRows s.leds stripColumns
    (strip top rows, top + rows.length)

/-- Whether a line shows the selected control. -/
def highlights (v : View) (l : PanelLine) : Bool := l.control == some v.selected

def panelLine (v : View) (row : Nat) (l : PanelLine) : List Draw :=
  [.moveTo 0 row, .text (Text.spaces (2 * l.indent + 1))] ++
  (match l.swatch with
    | some c => [.styled "  " none (some (.rgb c)), .text " "]
    | none => []) ++
  [if v.highlights l then .styled s!"▶ {l.text}" (some .black) (some .white) else .text l.text,
   .clearToLineEnd]

def panelArea (v : View) (top : Nat) (lines : List PanelLine) : List Draw :=
  lines.zipIdx.flatMap fun (l, i) => v.panelLine (top + i) l

/-- The message, else the last error of the machine, else help. -/
def footer (v : View) (s : Session R σ) (row : Nat) : List Draw :=
  [.moveTo 0 row,
   match v.message.or (s.scheduler.lastError.map EffectError.message) with
   | some m => .styled s!" {m} " (some .white) (some .darkRed)
   | none => .styled help (some .darkGrey) none,
   .clearBelow]

/-- The whole screen. -/
def screen (v : View) (s : Session R σ) : List Draw :=
  let (leds, row) := ledArea s 2
  let lines := s.panelLines
  header s ++ leds ++ v.panelArea (row + 1) lines ++ v.footer s (row + lines.length + 2)

/-- What is sent before the first drawing. -/
def opening : List Draw := [.enterAlternate, .hideCursor, .clearAll]

/-- What is sent after the last one. -/
def closing : List Draw := [.showCursor, .leaveAlternate]

end View
end LedStrip
