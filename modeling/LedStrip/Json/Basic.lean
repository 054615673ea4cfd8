import LedStrip.Entries
import LedStrip.Number.Scalar
import LedStrip.Text.Basic

/-!
# JSON values

Integers and floating-point numbers are different values.  The members of an object stand in key order, each key once,
wherever a value was built by this library; a parsed document keeps its members as written until `canonical` sorts them.
-/

namespace LedStrip

inductive Json (R : Type) where
  | null
  | bool (b : Bool)
  | int (n : Int)
  | float (x : R)
  | str (s : String)
  | arr (items : List (Json R))
  | obj (members : List (String × Json R))
deriving Inhabited

namespace Json

variable {R : Type}

/-! ### Shapes -/

def asString? : Json R → Option String
  | str s => some s
  | _ => none

def asObject? : Json R → Option (Entries (Json R))
  | obj m => some m
  | _ => none

def asBool? : Json R → Option Bool
  | bool b => some b
  | _ => none

def isNull : Json R → Bool
  | null => true
  | _ => false

/-- An integer or a float, as a scalar. -/
def asNumber? [Scalar R] : Json R → Option R
  | int n => some (Scalar.ofInt n)
  | float x => some x
  | _ => none

/-- Member of an object. -/
def get? (key : String) : Json R → Option (Json R)
  | obj m => Entries.get? key m
  | _ => none

/-- A scalar as a value; what is not finite becomes `null`. -/
def ofScalar [Scalar R] (x : R) : Json R := if Scalar.isFinite x then float x else null

def ofNat (n : Nat) : Json R := int n

/-- An object from its members, in any order. -/
def mkObj (members : List (String × Json R)) : Json R := obj (Entries.ofList members)

/-! ### Canonical form -/

mutual

/-- Sort the members of every object; of a key that is written twice the last value stays. -/
def canonical : Json R → Json R
  | arr items => arr (canonicalItems items)
  | obj members => obj (canonicalMembers members [])
  | v => v

def canonicalItems : List (Json R) → List (Json R)
  | [] => []
  | v :: rest => canonical v :: canonicalItems rest

def canonicalMembers : List (String × Json R) → Entries (Json R) → Entries (Json R)
  | [], done => done
  | (k, v) :: rest, done => canonicalMembers rest (Entries.insert k (canonical v) done)

end

/-! ### Pointers -/

/-- Undo `~1` and `~0` in one step of a pointer. -/
def unescapeStep : List Char → List Char
  | '~' :: '1' :: rest => '/' :: unescapeStep rest
  | '~' :: '0' :: rest => '~' :: unescapeStep rest
  | c :: rest => c :: unescapeStep rest
  | [] => []

/-- An array index in a pointer: decimal digits without a sign or a leading zero. -/
def indexStep? (step : String) : Option Nat :=
  match step.toList with
  | '0' :: _ :: _ => none
  | cs => (Text.natOf? 10 cs).filter (· < 2 ^ 64)

/-- One step down from a value. -/
def step? (step : String) : Json R → Option (Json R)
  | obj m => Entries.get? step m
  | arr items => (indexStep? step).bind fun i => items[i]?
  | _ => none

/-- Follow the steps of a pointer. -/
def walk? : List String → Json R → Option (Json R)
  | [], v => some v
  | s :: rest, v => (step? s v).bind (walk? rest)

/-- The value at a slash-separated path; the empty path is the value itself. -/
def pointer? (path : String) (v : Json R) : Option (Json R) :=
  match Text.pieces '/' path with
  | "" :: steps => walk? (steps.map fun s => String.ofList (unescapeStep s.toList)) v
  | _ => none

end Json
end LedStrip
