import LedStrip.Json.Decode

/-!
# Packs and their resources

A pack is a set of texts under relative names.  A `Source` fetches them, from memory or from a directory; the monad `m` is
where fetching happens.  `validateId` admits the ids from which resource names are made.
-/

namespace LedStrip

inductive FetchError where
  | notFound (resource : String)
  | status (resource : String) (code : Nat)
  | invalidResource (resource : String)
  | io (resource reason : String)
  | http (reason : String)
  | undecodable (resource : String) (e : DecodeFault)
  | unsupported (location : String)
deriving DecidableEq, Repr

namespace FetchError

/-- Name of the error for a program that reads it. -/
def kind : FetchError → String
  | notFound _ => "NotFound"
  | status _ _ => "Status"
  | invalidResource _ => "InvalidResource"
  | io _ _ => "Io"
  | http _ => "Http"
  | undecodable _ _ => "Decode"
  | unsupported _ => "Unsupported"

def message : FetchError → String
  | notFound r => s!"Resource not found: {r}"
  | status r code => s!"Request for {r} failed with status {code}"
  | invalidResource r => s!"Invalid resource name: {r}"
  | io r reason => s!"I/O error reading {r}: {reason}"
  | http reason => s!"HTTP error: {reason}"
  | undecodable r e => s!"Malformed {r}: {e.message}"
  | unsupported location => s!"Unsupported source location: {location} (built without the `http` feature)"

/-- The message with the place in a text that could not be decoded. -/
def details : FetchError → String
  | undecodable r e => s!"Malformed {r}: {e.details}"
  | e => e.message

/-- The resource at fault, if it is one. -/
def resource? : FetchError → Option String
  | notFound r => some r
  | status r _ => some r
  | invalidResource r => some r
  | io r _ => some r
  | undecodable r _ => some r
  | http _ => none
  | unsupported _ => none

end FetchError

/-! ### Names -/

namespace Resource

def manifest : String := "manifest.json"

/-- Functions that all effects of a pack share. -/
def runtime : String := "runtime.rhai"

def about (id : String) : String := id ++ "/meta.json"

def logic (id : String) : String := id ++ "/logic.rhai"

def panelSpec (id : String) : String := id ++ "/ui.json"

def panelScript (id : String) : String := id ++ "/ui.rhai"

def device (id : String) : String := id ++ "/config.json"

end Resource

/-- Characters of an id. -/
def isIdChar (c : Char) : Bool :=
  ('a' ≤ c && c ≤ 'z') || ('A' ≤ c && c ≤ 'Z') || ('0' ≤ c && c ≤ '9') || c == '-' || c == '_' || c == '.'

/-- An id names one folder: it is not empty, not a step to here or up, and has no separator. -/
def isValidId (id : String) : Bool :=
  id != "" && id != "." && id != ".." && id.toList.all isIdChar

def validateId (id : String) : Except FetchError Unit :=
  if isValidId id then .ok () else .error (.invalidResource id)

/-! ### Sources -/

structure Source (m : Type → Type) where
  location : String
  fetch : String → m (Except FetchError String)

namespace Source

variable {m : Type → Type} [Monad m]

/-- Fetch a document and decode it. -/
def fetchJson {R α : Type} [Scalar R] (s : Source m) (d : Decoder R α) (resource : String) :
    m (Except FetchError α) := do
  match ← s.fetch resource with
  | .error e => return .error e
  | .ok text =>
    match Decoder.ofText d text with
    | .ok a => return .ok a
    | .error e => return .error (.undecodable resource e)

/-- A source that holds its texts. -/
def ofEntries (files : Entries String) : Source m where
  location := s!"memory ({files.length} resources)"
  fetch r := pure <|
    match Entries.get? r files with
    | some text => .ok text
    | none => .error (.notFound r)

end Source

/-! ### Directories -/

/-- One part of a path. -/
inductive PathPart where
  | root
  | here
  | up
  | name (s : String)
deriving DecidableEq, Repr

/-- Parts of a path: empty parts and steps to here are dropped, except for one at the very start. -/
def pathParts (path : String) : List PathPart :=
  let part (s : String) : PathPart := if s = ".." then .up else .name s
  match Text.pieces '/' path with
  | "" :: rest =>
    (if path = "" then [] else [PathPart.root]) ++ (rest.filter fun s => s ≠ "" && s ≠ ".").map part
  | "." :: rest => .here :: (rest.filter fun s => s ≠ "" && s ≠ ".").map part
  | parts => (parts.filter fun s => s ≠ "" && s ≠ ".").map part

/-- A path below a directory. -/
def joinPath (dir path : String) : String :=
  if Text.startsWith "/" path || dir = "" then path
  else if Text.endsWith "/" dir then dir ++ path
  else dir ++ "/" ++ path

/-- The path of a resource in a directory; only plain names are followed. -/
def resolveIn (root resource : String) : Except FetchError String :=
  let parts := pathParts resource
  let plain : PathPart → Bool
    | .name _ => true
    | _ => false
  if resource ≠ "" && parts.all plain then .ok (joinPath root resource)
  else .error (.invalidResource resource)

/-! ### What a pack says about itself -/

structure EffectMeta where
  id : Option String := none
  name : String
  description : String := ""
deriving DecidableEq, Repr

namespace EffectMeta

variable {R : Type} [Scalar R]

def idOr (x : EffectMeta) (requested : String) : String := x.id.getD requested

def decode : Decoder R EffectMeta := fun v => do
  let string := Decoder.string (R := R)
  let found ← Decoder.record "EffectMeta"
    [Decoder.defaulted "id" (Decoder.optional string), Decoder.required "name" string,
     Decoder.defaulted "description" string] v
  return { id := ← Decoder.fieldOr (Decoder.optional string) none "id" found,
           name := ← Decoder.field string "name" found,
           description := ← Decoder.fieldOr string "" "description" found }

end EffectMeta

/-- The list under one member of a manifest; without the member it is empty. -/
def decodeManifest {R : Type} [Scalar R] (record key : String) : Decoder R (List String) := fun v => do
  let strings := Decoder.list (Decoder.string (R := R))
  let found ← Decoder.record record [Decoder.defaulted key strings] v
  Decoder.fieldOr strings [] key found

/-- Ids of the effects of a pack. -/
def decodeEffectList {R : Type} [Scalar R] : Decoder R (List String) :=
  decodeManifest "EffectManifest" "effects"

/-- Ids of the devices of a pack. -/
def decodeDeviceList {R : Type} [Scalar R] : Decoder R (List String) :=
  decodeManifest "DeviceManifest" "devices"

end LedStrip
