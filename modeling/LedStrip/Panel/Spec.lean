import LedStrip.Panel.Component

/-!
# Panel descriptions

A `PanelSpec` is a flat table of elements with a root, an initial state, and how edits reach the machine.  A `Node` is the
same panel as a tree; `PanelSpec.ofNode` numbers its nodes in the order in which they are met.
-/

namespace LedStrip

/-- The range of the speed control. -/
structure SpeedRange where
  min : Nat
  max : Nat
  default : Nat
deriving DecidableEq, Repr

/-- How edits reach the machine. -/
structure BridgeConfig (R : Type) where
  /-- Keys that make up the color. -/
  colorKeys : List String := []
  /-- Factors applied on the way to the machine. -/
  scaleKeys : Entries (Json R) := []

structure PanelElement (R : Type) where
  component : String
  props : Entries (Json R) := []
  children : List String := []

structure PanelSpec (R : Type) where
  root : String
  elements : Entries (PanelElement R)
  state : Json R
  bridge : Option (BridgeConfig R) := none
  speed : Option SpeedRange := none

inductive PanelError where
  | missingRoot (id : String)
  | unknownComponent (id component : String)
  | danglingChild (parent child : String)
  | cycle (id : String)
  | unknownProp (id : String) (component : Component) (prop : String)
  | missingProp (id : String) (component : Component) (prop : String)
  | invalidProp (id prop reason : String)
  | unexpectedChildren (id : String) (component : Component)
  | undecodable (e : DecodeFault)
  | notNode (found : String)
  | untypedNode
  | badProps (component found : String)
  | badChildren (component found : String)
  | renderFailed (reason : String)
deriving DecidableEq, Repr

namespace PanelError

/-- Name of the error for a program that reads it. -/
def kind : PanelError → String
  | missingRoot _ => "MissingRoot"
  | unknownComponent _ _ => "UnknownComponent"
  | danglingChild _ _ => "DanglingChild"
  | cycle _ => "Cycle"
  | unknownProp _ _ _ => "UnknownProp"
  | missingProp _ _ _ => "MissingProp"
  | invalidProp _ _ _ => "InvalidProp"
  | unexpectedChildren _ _ => "UnexpectedChildren"
  | renderFailed _ => "Render"
  | _ => "Malformed"

def message : PanelError → String
  | missingRoot id => s!"Root element '{id}' is not defined"
  | unknownComponent id component => s!"Element '{id}' uses unknown component '{component}'"
  | danglingChild parent child => s!"Element '{parent}' references undefined child '{child}'"
  | cycle id => s!"Element '{id}' is reachable through a cycle"
  | unknownProp id component prop => s!"Element '{id}' ({component.name}) has no prop '{prop}'"
  | missingProp id component prop => s!"Element '{id}' ({component.name}) is missing required prop '{prop}'"
  | invalidProp id prop reason => s!"Element '{id}' prop '{prop}': {reason}"
  | unexpectedChildren id component => s!"Element '{id}' ({component.name}) cannot have children"
  | undecodable e => s!"Malformed UI description: {e.message}"
  | notNode found => s!"Malformed UI description: expected a node object, got {found}"
  | untypedNode => "Malformed UI description: node is missing 'type'"
  | badProps component found =>
    s!"Malformed UI description: props of {component} must be an object, got {found}"
  | badChildren component found =>
    s!"Malformed UI description: children of {component} must be an array, got {found}"
  | renderFailed reason => s!"Panel script failed: {reason}"

end PanelError

/-! ### Speed range -/

namespace SpeedRange

variable {R : Type} [Scalar R]

/-- The range of a panel that declares none. -/
def standard : SpeedRange := ⟨20, 1000, 200⟩

/-- A requested interval, rounded and brought into the range; the two ends may be swapped. -/
def clamp (r : SpeedRange) (ms : R) : Nat :=
  Scalar.toWord
    (Scalar.clamp (Scalar.ofNat (Nat.min r.min r.max)) (Scalar.ofNat (Nat.max r.max r.min)) (Scalar.round ms))

def decode : Decoder R SpeedRange := fun v => do
  let word := Decoder.word (R := R) "u64"
  let found ← Decoder.record "SpeedConfig"
    [Decoder.required "min" word, Decoder.required "max" word, Decoder.required "default" word] v
  return { min := ← Decoder.field word "min" found, max := ← Decoder.field word "max" found,
           default := ← Decoder.field word "default" found }

def toJson (r : SpeedRange) : Json R :=
  .mkObj [("min", .ofNat r.min), ("max", .ofNat r.max), ("default", .ofNat r.default)]

end SpeedRange

/-! ### As JSON -/

namespace BridgeConfig

variable {R : Type} [Scalar R]

def decode : Decoder R (BridgeConfig R) := fun v => do
  let keys := Decoder.list (Decoder.string (R := R))
  let scales := Decoder.entries (Decoder.value (R := R))
  let found ← Decoder.record "BridgeConfig"
    [Decoder.defaulted "colorKeys" keys, Decoder.defaulted "scaleKeys" scales] v
  return { colorKeys := ← Decoder.fieldOr keys [] "colorKeys" found,
           scaleKeys := ← Decoder.fieldOr scales [] "scaleKeys" found }

def toJson (c : BridgeConfig R) : Json R :=
  .mkObj [("colorKeys", .arr (c.colorKeys.map .str)), ("scaleKeys", .obj c.scaleKeys)]

end BridgeConfig

namespace PanelElement

variable {R : Type} [Scalar R]

def decode : Decoder R (PanelElement R) := fun v => do
  let props := Decoder.entries (Decoder.value (R := R))
  let children := Decoder.list (Decoder.string (R := R))
  let found ← Decoder.record "UiElement"
    [Decoder.required "type" Decoder.string, Decoder.defaulted "props" props,
     Decoder.defaulted "children" children] v
  return { component := ← Decoder.field Decoder.string "type" found,
           props := ← Decoder.fieldOr props [] "props" found,
           children := ← Decoder.fieldOr children [] "children" found }

def toJson (e : PanelElement R) : Json R :=
  .mkObj <|
    [("type", .str e.component), ("props", .obj e.props)] ++
    (if e.children.isEmpty then [] else [("children", .arr (e.children.map .str))])

end PanelElement

namespace PanelSpec

variable {R : Type} [Scalar R]

def speedRange (s : PanelSpec R) : SpeedRange := s.speed.getD .standard

def decode : Decoder R (PanelSpec R) := fun v => do
  let elements := Decoder.entries (PanelElement.decode (R := R))
  let bridge := Decoder.optional (BridgeConfig.decode (R := R))
  let speed := Decoder.optional (SpeedRange.decode (R := R))
  let found ← Decoder.record "UiSpec"
    [Decoder.required "root" Decoder.string, Decoder.required "elements" elements,
     Decoder.defaulted "state" Decoder.value, Decoder.defaulted "bridge" bridge,
     Decoder.defaulted "speed" speed] v
  return { root := ← Decoder.field Decoder.string "root" found,
           elements := ← Decoder.field elements "elements" found,
           state := ← Decoder.fieldOr Decoder.value (.obj []) "state" found,
           bridge := ← Decoder.fieldOr bridge none "bridge" found,
           speed := ← Decoder.fieldOr speed none "speed" found }

/-- Read a description from its text. -/
def ofText (text : String) : Except PanelError (PanelSpec R) :=
  match Decoder.ofText decode text with
  | .ok s => .ok s
  | .error e => .error (.undecodable e)

def toJson (s : PanelSpec R) : Json R :=
  .mkObj <|
    [("root", .str s.root), ("elements", .obj (s.elements.map fun e => (e.1, e.2.toJson))),
     ("state", s.state)] ++
    (s.bridge.map fun b => ("bridge", b.toJson)).toList ++
    (s.speed.map fun r => ("speed", r.toJson)).toList

end PanelSpec

/-! ### Trees of nodes -/

/-- A panel as a tree: a component name, properties and children. -/
inductive PanelNode (R : Type) where
  | mk (component : String) (props : List (String × Json R)) (children : List (PanelNode R))

namespace PanelNode

variable {R : Type} [Scalar R]

/-- Properties of a node; none and `null` are the same. -/
def propsOf (component : String) : Option (Json R) → Except PanelError (Entries (Json R))
  | none => .ok []
  | some .null => .ok []
  | some (.obj m) => .ok m
  | some v => .error (.badProps component v.text)

mutual

/-- Read a node from a value. -/
def ofJson : Json R → Except PanelError (PanelNode R)
  | .obj members =>
    match (Entries.get? "type" members).bind Json.asString? with
    | none => .error .untypedNode
    | some component => do
      let props ← propsOf component (Entries.get? "props" members)
      let children ← childrenIn component members
      return mk component props children
  | v => .error (.notNode v.text)

/-- Children of a node, found among its members. -/
def childrenIn (component : String) : List (String × Json R) → Except PanelError (List (PanelNode R))
  | [] => .ok []
  | (k, v) :: rest => if k = "children" then childrenOf component v else childrenIn component rest

/-- Children given as a value; `null` is none. -/
def childrenOf (component : String) : Json R → Except PanelError (List (PanelNode R))
  | .null => .ok []
  | .arr items => listOfJson items
  | v => .error (.badChildren component v.text)

def listOfJson : List (Json R) → Except PanelError (List (PanelNode R))
  | [] => .ok []
  | v :: rest => do
    let n ← ofJson v
    let ns ← listOfJson rest
    return n :: ns

end

omit [Scalar R] in
/-- The id of the node that is met as number `k`. -/
def idOf (k : Nat) : String := s!"n{k}"

mutual

/-- Elements of a tree whose root is met as number `k`, and the number of the next node. -/
def elementsFrom (k : Nat) : PanelNode R → List (String × PanelElement R) × Nat
  | mk component props children =>
    let (ids, elements, next) := listFrom (k + 1) children
    ((idOf k, ⟨component, props, ids⟩) :: elements, next)

def listFrom (k : Nat) : List (PanelNode R) → List String × List (String × PanelElement R) × Nat
  | [] => ([], [], k)
  | n :: rest =>
    let (first, k') := elementsFrom k n
    let (ids, others, next) := listFrom k' rest
    (idOf k :: ids, first ++ others, next)

end

end PanelNode

/-- The flat description of a tree, with a state. -/
def PanelSpec.ofNode {R : Type} (node : PanelNode R) (state : Json R) : PanelSpec R where
  root := PanelNode.idOf 0
  elements := Entries.ofList (PanelNode.elementsFrom 0 node).1
  state := state

/-- The flat description of a tree given as a value. -/
def PanelSpec.ofNodeJson {R : Type} [Scalar R] (node state : Json R) : Except PanelError (PanelSpec R) :=
  (PanelNode.ofJson node).map fun n => PanelSpec.ofNode n state

end LedStrip
