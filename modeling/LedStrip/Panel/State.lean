import LedStrip.Json.Printer

/-!
# Panel state

The record that a panel shows and edits.  An edit gives a new record with the next revision, so that a reader can tell
whether the state it has seen is still the current one.
-/

namespace LedStrip

/-- The member of the state that belongs to the effect. -/
def effectNamespace : String := "effect"

structure PanelState (R : Type) where
  value : Json R
  revision : Nat := 0

namespace PanelState

variable {R : Type}

def empty : PanelState R := { value := .obj [] }

/-- Value at a slash-separated path. -/
def get? (s : PanelState R) (path : String) : Option (Json R) := s.value.pointer? path

/-- Number under a key of the effect. -/
def effectNumber? [Scalar R] (s : PanelState R) (key : String) : Option R :=
  ((s.value.get? effectNamespace).bind (·.get? key)).bind Json.asNumber?

/-- Set a key of the effect; what is not an object makes room for one. -/
def withEffectValue (s : PanelState R) (key : String) (v : Json R) : PanelState R :=
  let root := s.value.asObject?.getD []
  let inner := ((Entries.get? effectNamespace root).bind Json.asObject?).getD []
  { value := .obj (Entries.insert effectNamespace (.obj (Entries.insert key v inner)) root),
    revision := s.revision + 1 }

/-- Whether two records of one history are the same record. -/
def same (s t : PanelState R) : Bool := s.revision == t.revision

end PanelState
end LedStrip
