import LedStrip.Json.Decode
import LedStrip.Json.Printer

/-!
# Components

The fixed vocabulary of a control panel: five components, and for each the properties it may have.
-/

namespace LedStrip

/-- What a literal property may be. -/
inductive PropKind where
  | number
  | string
  | oneOf (choices : List String)
deriving DecidableEq, Repr

structure PropSchema where
  name : String
  kind : PropKind
  required : Bool
deriving DecidableEq, Repr

inductive Component where
  /-- Lays out its children. -/
  | stack
  /-- Frames its children under an optional title. -/
  | card
  /-- A number in a range. -/
  | slider
  /-- Hue, saturation and brightness with a preview. -/
  | colorPicker
  | text
deriving DecidableEq, Repr

namespace PropKind

variable {R : Type} [Scalar R]

def describe : PropKind → String
  | number => "Number"
  | string => "String"
  | oneOf choices => s!"Enum({Text.quoteList choices})"

/-- What a literal of this kind should have been, if it is none. -/
def fault? (kind : PropKind) (v : Json R) : Option String :=
  match kind, v with
  | number, .int _ => none
  | number, .float _ => none
  | number, v => some s!"expected a number, got {v.text}"
  | string, .str _ => none
  | string, v => some s!"expected a string, got {v.text}"
  | oneOf choices, v =>
    if (v.asString?.map choices.contains).getD false then none
    else some s!"expected one of {Text.quoteList choices}, got {v.text}"

end PropKind

namespace Component

def all : List Component := [stack, card, slider, colorPicker, text]

def name : Component → String
  | stack => "Stack"
  | card => "Card"
  | slider => "CupertinoSlider"
  | colorPicker => "ColorHSV"
  | text => "Text"

def ofName? (name : String) : Option Component := all.find? (·.name == name)

/-- Whether it may have children. -/
def hasSlot : Component → Bool
  | stack => true
  | card => true
  | _ => false

/-- Properties in the order in which a missing one is reported. -/
def props : Component → List PropSchema
  | stack =>
    [⟨"direction", .oneOf ["vertical", "horizontal"], false⟩, ⟨"gap", .oneOf ["sm", "md", "lg"], false⟩]
  | card => [⟨"title", .string, false⟩]
  | slider =>
    [⟨"label", .string, true⟩, ⟨"min", .number, true⟩, ⟨"max", .number, true⟩, ⟨"step", .number, false⟩,
     ⟨"value", .number, false⟩, ⟨"unit", .string, false⟩, ⟨"minLabel", .string, false⟩,
     ⟨"maxLabel", .string, false⟩, ⟨"accentColor", .string, false⟩]
  | colorPicker =>
    [⟨"label", .string, true⟩, ⟨"hue", .number, false⟩, ⟨"saturation", .number, false⟩,
     ⟨"brightness", .number, false⟩, ⟨"accentColor", .string, false⟩]
  | text => [⟨"text", .string, true⟩, ⟨"variant", .oneOf ["label", "value", "hint"], false⟩]

def prop? (c : Component) (name : String) : Option PropSchema := c.props.find? (·.name == name)

end Component
end LedStrip
