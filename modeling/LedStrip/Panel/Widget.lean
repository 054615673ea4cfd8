import LedStrip.Panel.Spec
import LedStrip.Panel.State

/-!
# Widgets

`PanelSpec.compile` checks a description against the components and unfolds it from its root into a tree of widgets.  An
element used in two places appears twice; an element that reaches itself is refused.
-/

namespace LedStrip

/-- A property of a widget: fixed, or read from the state at a path. -/
inductive PropValue (R : Type) where
  | literal (v : Json R)
  | bound (path : String)

inductive Widget (R : Type) where
  | mk (id : String) (component : Component) (props : List (String × PropValue R))
      (children : List (Widget R))

/-- The member that marks a bound property. -/
def bindKey : String := "$bindState"

namespace PropValue

variable {R : Type}

def path? : PropValue R → Option String
  | bound path => some path
  | literal _ => none

/-- The current value. -/
def resolve? (state : PanelState R) : PropValue R → Option (Json R)
  | literal v => some v
  | bound path => state.get? path

/-- A property as written: an object with the marking member is a binding, and only with a rooted path and nothing else. -/
def ofJson [Scalar R] (v : Json R) : Except String (PropValue R) :=
  match v with
  | .obj members =>
    match Entries.get? bindKey members with
    | none => .ok (literal v)
    | some (.str path) =>
      if Text.startsWith "/" path && members.length == 1 then .ok (bound path)
      else .error s!"invalid binding {v.text}"
    | some _ => .error s!"invalid binding {v.text}"
  | v => .ok (literal v)

end PropValue

namespace Widget

variable {R : Type}

def id : Widget R → String
  | mk id _ _ _ => id

def component : Widget R → Component
  | mk _ c _ _ => c

def props : Widget R → Entries (PropValue R)
  | mk _ _ props _ => props

def children : Widget R → List (Widget R)
  | mk _ _ _ children => children

def prop? (w : Widget R) (name : String) : Option (PropValue R) := Entries.get? name w.props

/-- Path a property is bound to. -/
def boundPath? (w : Widget R) (name : String) : Option String := (w.prop? name).bind PropValue.path?

/-- Current value of a property. -/
def value? (w : Widget R) (state : PanelState R) (name : String) : Option (Json R) :=
  (w.prop? name).bind (PropValue.resolve? state)

def number? [Scalar R] (w : Widget R) (state : PanelState R) (name : String) : Option R :=
  (w.value? state name).bind Json.asNumber?

/-- A property that is a literal. -/
def literal? (w : Widget R) (name : String) : Option (Json R) :=
  match w.prop? name with
  | some (.literal v) => some v
  | _ => none

end Widget

/-! ### Compilation -/

namespace PanelSpec

variable {R : Type} [Scalar R]

/-- One property against its schema; an optional one that is `null` is left out. -/
def compileProp (id : String) (component : Component) (name : String) (v : Json R) :
    Except PanelError (Option (PropValue R)) :=
  match component.prop? name with
  | none => .error (.unknownProp id component name)
  | some schema =>
    match PropValue.ofJson v with
    | .error reason => .error (.invalidProp id name reason)
    | .ok (.bound path) => .ok (some (.bound path))
    | .ok (.literal v) =>
      if v.isNull && !schema.required then .ok none
      else
        match schema.kind.fault? v with
        | some reason => .error (.invalidProp id name reason)
        | none => .ok (some (.literal v))

def compilePropList (id : String) (component : Component) :
    List (String × Json R) → Except PanelError (Entries (PropValue R))
  | [] => .ok []
  | (name, v) :: rest => do
    let p ← compileProp id component name v
    let ps ← compilePropList id component rest
    return (p.map fun p => (name, p)).toList ++ ps

/-- All properties of an element; a required one has to be there. -/
def compileProps (id : String) (component : Component) (raw : Entries (Json R)) :
    Except PanelError (Entries (PropValue R)) := do
  let props ← compilePropList id component raw
  match component.props.find? fun s => s.required && !Entries.contains s.name props with
  | some s => throw (.missingProp id component s.name)
  | none => return props

/-- Unfold the element `id`, met on the way `path` from the root.  The elements on a way are defined and distinct, so a
way is no longer than the table and the fuel is never used up. -/
def compileElement (spec : PanelSpec R) : Nat → List String → String → Except PanelError (Widget R)
  | 0, _, id => .error (.cycle id)
  | fuel + 1, path, id =>
    if id ∈ path then .error (.cycle id)
    else
      match Entries.get? id spec.elements with
      | none => .error (.missingRoot id)
      | some element =>
        match Component.ofName? element.component with
        | none => .error (.unknownComponent id element.component)
        | some component => do
          let props ← compileProps id component element.props
          if !element.children.isEmpty && !component.hasSlot then
            throw (.unexpectedChildren id component)
          let children ← element.children.mapM fun child =>
            if Entries.contains child spec.elements then compileElement spec fuel (id :: path) child
            else .error (.danglingChild id child)
          return .mk id component props children

/-- The tree of widgets of a description. -/
def compile (spec : PanelSpec R) : Except PanelError (Widget R) :=
  if Entries.contains spec.root spec.elements then
    compileElement spec (spec.elements.length + 1) [] spec.root
  else .error (.missingRoot spec.root)

end PanelSpec
end LedStrip
