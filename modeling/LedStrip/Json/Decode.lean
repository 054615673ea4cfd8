import LedStrip.Json.Parser
import LedStrip.Text.Quoted

/-!
# Decoding JSON into records

A decoder turns a parsed document into a value of the library or says what is wrong with it.  The fault reported is the
first one met from left to right; a missing field is noticed at the end of its object, in the order of declaration.
A record is read from an object or, field by field, from an array.
-/

namespace LedStrip

inductive DecodeError where
  /-- The text is no JSON document. -/
  | notJson (problem : Json.SyntaxProblem)
  | invalidType (found expected : String)
  | invalidValue (found expected : String)
  | missingField (name : String)
  | duplicateField (name : String)
  | invalidLength (length : Nat) (expected : String)
  /-- More items than the record has fields. -/
  | trailing
  /-- A rule of the decoded type. -/
  | refused (message : String)
  /-- Met in an item or a member. -/
  | within (child : Nat) (e : DecodeError)
deriving DecidableEq, Repr, Inhabited

namespace DecodeError

def message : DecodeError → String
  | notJson _ => "<json syntax>"
  | invalidType found expected => s!"invalid type: {found}, expected {expected}"
  | invalidValue found expected => s!"invalid value: {found}, expected {expected}"
  | missingField name => s!"missing field `{name}`"
  | duplicateField name => s!"duplicate field `{name}`"
  | invalidLength length expected => s!"invalid length {length}, expected {expected}"
  | trailing => "trailing characters"
  | refused m => m
  | within _ e => e.message

/-- Where an error was noticed, in a text that begins with the decoded value.  An array or an object in place of something
else is noticed when it begins, a member that is written twice at its colon, and all else when the value has ended. -/
def markIn (R : Type) [Scalar R] : DecodeError → List Char → Json.Mark
  | within child e, cs =>
    match Json.childText? R child (Json.valueText cs) with
    | some rest => e.markIn R rest
    | none => ⟨cs.length, false⟩
  | duplicateField _, cs => ⟨cs.length, false⟩
  | trailing, cs => ⟨cs.length, true⟩
  | invalidType _ _, cs =>
    let start := Json.valueText cs
    if start.head? == some '[' || start.head? == some '\x7b' then ⟨start.length, false⟩
    else ⟨(Json.afterValue R cs).length, false⟩
  | _, cs => ⟨(Json.afterValue R cs).length, false⟩

end DecodeError

/-- An error with its place in the text, if there was a text. -/
structure DecodeFault where
  error : DecodeError
  position : Option Position := none
deriving DecidableEq, Repr, Inhabited

namespace DecodeFault

/-- What is wrong, without a place; of a text that is no JSON, only that. -/
def message (f : DecodeFault) : String := f.error.message

/-- What is wrong, and where. -/
def details (f : DecodeFault) : String :=
  let problem :=
    match f.error with
    | .notJson problem => problem.message
    | e => e.message
  match f.position with
  | some p => s!"{problem} at line {p.line} column {p.column}"
  | none => problem

end DecodeFault

abbrev Decoder (R α : Type) := Json R → Except DecodeError α

namespace Decoder

variable {R α : Type} [Scalar R]

/-- How a value is named where another kind was expected. -/
def describe : Json R → String
  | .null => "null"
  | .bool b => s!"boolean `{b}`"
  | .int n => s!"integer `{n}`"
  | .float x => s!"floating point `{Scalar.text .json x}`"
  | .str s => s!"string {Text.quote s}"
  | .arr _ => "sequence"
  | .obj _ => "map"

def wrongType (expected : String) (v : Json R) : Except DecodeError α :=
  .error (.invalidType (describe v) expected)

/-! ### Plain values -/

def string : Decoder R String
  | .str s => .ok s
  | v => wrongType "a string" v

/-- An unsigned 64-bit integer, named `kind` in a fault. -/
def word (kind : String) : Decoder R Nat
  | .int n =>
    if 0 ≤ n then .ok n.toNat
    else .error (.invalidValue (describe (Json.int n : Json R)) kind)
  | v => wrongType kind v

def scalar : Decoder R R
  | .int n => .ok (Scalar.ofInt n)
  | .float x => .ok x
  | v => wrongType "f64" v

/-- Any value, in canonical form. -/
def value : Decoder R (Json R) := fun v => .ok v.canonical

/-- `null` stands for nothing. -/
def optional (d : Decoder R α) : Decoder R (Option α)
  | .null => .ok none
  | v => (d v).map some

def list (d : Decoder R α) : Decoder R (List α)
  | .arr items => items.zipIdx.mapM fun (v, i) => (d v).mapError (.within i)
  | v => wrongType "a sequence" v

/-- An object with any keys; of a key that is written twice the last value stays. -/
def entries (d : Decoder R α) : Decoder R (Entries α)
  | .obj members =>
    members.zipIdx.foldlM (fun m (e, i) => do return Entries.insert e.1 (← (d e.2).mapError (.within i)) m) []
  | v => wrongType "a map" v

/-! ### Records -/

/-- A field as seen by the reader of its record. -/
structure Field (R : Type) where
  name : String
  check : Json R → Except DecodeError Unit
  /-- May be left out of an object. -/
  omissible : Bool
  /-- May be left out at the end of an array. -/
  defaulted : Bool

/-- A field that has to be there. -/
def required (name : String) (d : Decoder R α) : Field R :=
  ⟨name, fun v => (d v).map fun _ => (), false, false⟩

/-- A field that may be `null` or left out of an object. -/
def nullable (name : String) (d : Decoder R α) : Field R :=
  ⟨name, fun v => (optional d v).map fun _ => (), true, false⟩

/-- A field with a default. -/
def defaulted (name : String) (d : Decoder R α) : Field R :=
  ⟨name, fun v => (d v).map fun _ => (), true, true⟩

/-- Check the members of an object in order, from member `i` on; the fields found are returned. -/
def checkMembers (fields : List (Field R)) :
    Nat → List (String × Json R) → Entries (Json R) → Except DecodeError (Entries (Json R))
  | _, [], found =>
    match fields.find? fun f => !f.omissible && !Entries.contains f.name found with
    | some f => .error (.missingField f.name)
    | none => .ok found
  | i, (k, v) :: rest, found =>
    match fields.find? (·.name == k) with
    | none => checkMembers fields (i + 1) rest found
    | some f =>
      if Entries.contains k found then .error (.within i (.duplicateField k))
      else do
        (f.check v).mapError (.within i)
        checkMembers fields (i + 1) rest (Entries.insert k v found)

/-- Check the items of an array against the fields in order, from item `i` on. -/
def checkItems (expected : String) :
    Nat → List (Field R) → List (Json R) → Entries (Json R) → Except DecodeError (Entries (Json R))
  | _, [], [], found => .ok found
  | i, [], _ :: _, _ => .error (.within i .trailing)
  | i, f :: fs, [], found =>
    if f.defaulted then checkItems expected (i + 1) fs [] found
    else .error (.invalidLength i expected)
  | i, f :: fs, v :: vs, found => do
    (f.check v).mapError (.within i)
    checkItems expected (i + 1) fs vs (Entries.insert f.name v found)

/-- The fields of a record, read from an object or an array. -/
def record (name : String) (fields : List (Field R)) : Decoder R (Entries (Json R))
  | .obj members => checkMembers fields 0 members []
  | .arr items => checkItems s!"struct {name} with {fields.length} elements" 0 fields items []
  | v => wrongType s!"struct {name}" v

/-- A checked field, or a default where it was left out. -/
def fieldOr (d : Decoder R α) (default : α) (name : String) (found : Entries (Json R)) :
    Except DecodeError α :=
  match Entries.get? name found with
  | some v => d v
  | none => .ok default

/-- A checked field that cannot be missing. -/
def field (d : Decoder R α) (name : String) (found : Entries (Json R)) : Except DecodeError α :=
  match Entries.get? name found with
  | some v => d v
  | none => .error (.missingField name)

/-- Read a document and decode it. -/
def ofText (d : Decoder R α) (text : String) : Except DecodeFault α :=
  match Json.parse text with
  | .error f => .error ⟨.notJson f.problem, some (f.mark.position text)⟩
  | .ok v => (d v).mapError fun e => ⟨e, some ((e.markIn R text.toList).position text)⟩

end Decoder
end LedStrip
