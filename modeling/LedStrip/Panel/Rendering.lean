import LedStrip.Panel.Widget
import LedStrip.Color

/-!
# What a panel shows

`Widget.lines` lays a tree of widgets out as lines of text against a state, and `Widget.controls` lists what can be
adjusted.  A line of a control carries the index of the control in that list.
-/

namespace LedStrip

/-- A bound number that can be moved in steps. -/
structure Control (R : Type) where
  label : String
  path : String
  min : R
  max : R
  step : R
  unit : String

structure PanelLine where
  indent : Nat
  text : String
  swatch : Option Rgb
  /-- Index of the control on this line. -/
  control : Option Nat
deriving DecidableEq, Repr

/-- A channel of the color picker. -/
structure HsvChannel where
  prop : String
  label : String
  max : Nat
  step : Nat
  unit : String

def hsvChannelList : List HsvChannel :=
  [⟨"hue", "Hue", 360, 5, "°"⟩, ⟨"saturation", "Saturation", 100, 1, "%"⟩,
   ⟨"brightness", "Brightness", 100, 1, "%"⟩]

namespace Control

variable {R : Type} [Scalar R]

/-- Move a value by a number of steps, within the range; the two ends may be swapped. -/
def adjust (c : Control R) (current : R) (steps : Int) : R :=
  let next := current + c.step * Scalar.ofInt steps
  if c.max < c.min then Scalar.clamp c.max c.min next else Scalar.clamp c.min c.max next

end Control

namespace Widget

variable {R : Type} [Scalar R]

/-! ### Controls -/

/-- Controls of one widget, its children aside. -/
def ownControls (w : Widget R) : List (Control R) :=
  let number (name : String) (default : Nat) : R :=
    ((w.literal? name).bind Json.asNumber?).getD (Scalar.ofNat default)
  match w.component with
  | .slider =>
    (w.boundPath? "value").toList.map fun path =>
      { label := ((w.literal? "label").bind Json.asString?).getD w.id
        path := path
        min := number "min" 0
        max := number "max" 100
        step := number "step" 1
        unit := ((w.literal? "unit").bind Json.asString?).getD "" }
  | .colorPicker =>
    hsvChannelList.filterMap fun ch =>
      (w.boundPath? ch.prop).map fun path =>
        { label := ch.label, path := path, min := Scalar.ofNat 0, max := Scalar.ofNat ch.max,
          step := Scalar.ofNat ch.step, unit := ch.unit }
  | _ => []

mutual

/-- Controls of a tree, parents before their children. -/
def controls : Widget R → List (Control R)
  | mk id c props children => ownControls (mk id c props children) ++ controlsOfAll children

def controlsOfAll : List (Widget R) → List (Control R)
  | [] => []
  | w :: rest => controls w ++ controlsOfAll rest

end

/-! ### Lines -/

/-- A number without needless digits: whole, or with two places. -/
def numberText (x : R) : String :=
  if Scalar.trunc x == x && Scalar.isFinite x then toString (Scalar.toIntIn (-(2 ^ 63)) (2 ^ 63 - 1) x)
  else Scalar.textHundredths x

/-- A property as text; nothing and `null` are empty. -/
def textOf (w : Widget R) (state : PanelState R) (name : String) : String :=
  match w.value? state name with
  | some (.str s) => s
  | some .null => ""
  | none => ""
  | some v => v.text

def numberTextOf (w : Widget R) (state : PanelState R) (name : String) (default : String) : String :=
  ((w.number? state name).map numberText).getD default

/-- The color a picker shows. -/
def swatch (w : Widget R) (state : PanelState R) : Rgb :=
  let number (name : String) (default : Nat) : R := (w.number? state name).getD (Scalar.ofNat default)
  Rgb.ofHsv (number "hue" 0) (number "saturation" 100 / Scalar.ofNat 100)
    (number "brightness" 100 / Scalar.ofNat 100)

/-- One line per channel of a picker; a bound channel takes the next control index. -/
def channelLines (w : Widget R) (state : PanelState R) (indent : Nat) :
    List HsvChannel → Nat → List PanelLine × Nat
  | [], next => ([], next)
  | ch :: rest, next =>
    let value := w.numberTextOf state ch.prop ""
    let text := s!"{ch.label}: {value}{ch.unit}"
    let isBound := (w.boundPath? ch.prop).isSome
    let (lines, last) := channelLines w state indent rest (if isBound then next + 1 else next)
    (⟨indent, text, none, if isBound then some next else none⟩ :: lines, last)

/-- Lines of one widget, its children aside, with the next free control index. -/
def ownLines (w : Widget R) (state : PanelState R) (indent next : Nat) : List PanelLine × Nat :=
  match w.component with
  | .stack => ([], next)
  | .card =>
    let title := w.textOf state "title"
    (if title.isEmpty then [] else [⟨indent, title, none, none⟩], next)
  | .slider =>
    let label := w.textOf state "label"
    let value := w.numberTextOf state "value" "-" ++ w.textOf state "unit"
    let range := w.numberTextOf state "min" "" ++ ".." ++ w.numberTextOf state "max" ""
    let isBound := (w.boundPath? "value").isSome
    ([⟨indent, s!"{label}: {value} [{range}]", none,
        if isBound then some next else none⟩],
      if isBound then next + 1 else next)
  | .colorPicker =>
    let color := w.swatch state
    let (lines, next) := w.channelLines state (indent + 1) hsvChannelList next
    (⟨indent, w.textOf state "label" ++ " #" ++ color.toHex, some color, none⟩ :: lines, next)
  | .text => ([⟨indent, w.textOf state "text", none, none⟩], next)

/-- Indentation of the children. -/
def childIndent (w : Widget R) (indent : Nat) : Nat :=
  match w.component with
  | .card => indent + 1
  | _ => indent

mutual

/-- Lines of a tree from an indentation and a control index on, with the next free index. -/
def linesFrom (state : PanelState R) (indent next : Nat) : Widget R → List PanelLine × Nat
  | mk id c props children =>
    let w := mk id c props children
    let (own, next) := ownLines w state indent next
    let (below, next) := linesOfAll state (childIndent w indent) next children
    (own ++ below, next)

def linesOfAll (state : PanelState R) (indent next : Nat) : List (Widget R) → List PanelLine × Nat
  | [] => ([], next)
  | w :: rest =>
    let (first, next) := linesFrom state indent next w
    let (others, next) := linesOfAll state indent next rest
    (first ++ others, next)

end

/-- The panel as lines of text. -/
def lines (w : Widget R) (state : PanelState R) : List PanelLine := (linesFrom state 0 0 w).1

/-! ### Outline -/

mutual

/-- Component, id and bindings of every widget, indented by depth. -/
def outlineFrom (depth : Nat) : Widget R → List String
  | mk id c props children =>
    let bindings := props.filterMap fun p => p.2.path?.map fun path => s!"{p.1}->{path}"
    let suffix := if bindings.isEmpty then "" else " [" ++ ", ".intercalate bindings ++ "]"
    (Text.spaces (2 * depth) ++ s!"{c.name} #{id}{suffix}") :: outlineOfAll (depth + 1) children

def outlineOfAll (depth : Nat) : List (Widget R) → List String
  | [] => []
  | w :: rest => outlineFrom depth w ++ outlineOfAll depth rest

end

def outline (w : Widget R) : List String := outlineFrom 0 w

end Widget
end LedStrip
