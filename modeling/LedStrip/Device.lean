import LedStrip.Frame
import LedStrip.Pack.Source

/-!
# Devices

A device says where the LEDs of its strips sit on a canvas whose origin is its center and whose `y` points up.  The strips
lie back to back in a frame.  `fault?` finds what is wrong with a description, `cell` maps a point to a text grid.
-/

namespace LedStrip

structure DeviceLed (R : Type) where
  /-- Position on its strip. -/
  index : Nat
  x : R
  y : R
  guard : Option String := none

structure DeviceStrip (R : Type) where
  id : String
  name : String
  ledCount : Nat
  path : Option String := none
  leds : List (DeviceLed R) := []

structure RotorGuard (R : Type) where
  cx : R
  cy : R
  radius : R

structure Canvas (R : Type) where
  width : R
  height : R
  origin : String := "center"

structure Device (R : Type) where
  id : String
  name : String
  description : String := ""
  coordinateUnit : String := "mm"
  canvas : Canvas R
  rotorGuards : Option (Entries (RotorGuard R)) := none
  strips : List (DeviceStrip R)

/-- What is wrong with a device. -/
inductive DeviceFault where
  | undecodable (e : DecodeFault)
  | noStrips (device : String)
  | badCanvas (device : String)
  | outOfRange (strip : String) (index ledCount : Nat)
  | placedTwice (strip : String) (index : Nat)
  | unknownGuard (strip : String) (index : Nat) (guard : String)
deriving DecidableEq, Repr

def DeviceFault.message : DeviceFault → String
  | undecodable e => s!"Invalid device config: {e.message}"
  | noStrips device => s!"Invalid device config: {device} has no strips"
  | badCanvas device => s!"Invalid device config: {device} canvas must have a positive size"
  | outOfRange strip index ledCount =>
    s!"Invalid device config: strip {strip} LED index {index} out of range (ledCount {ledCount})"
  | placedTwice strip index => s!"Invalid device config: strip {strip} places LED {index} twice"
  | unknownGuard strip index guard =>
    s!"Invalid device config: strip {strip} LED {index} references unknown guard {guard}"

inductive DeviceError where
  | fetch (e : FetchError)
  | fault (f : DeviceFault)
deriving DecidableEq, Repr

def DeviceError.message : DeviceError → String
  | fetch e => e.message
  | fault f => f.message

/-- A placed LED, addressed by its place in the frame. -/
structure Placement (R : Type) where
  index : Nat
  x : R
  y : R

/-! ### Decoding -/

section Decoding

variable {R : Type} [Scalar R]

def DeviceLed.decode : Decoder R (DeviceLed R) := fun v => do
  let index := Decoder.word (R := R) "usize"
  let guard := Decoder.optional (Decoder.string (R := R))
  let found ← Decoder.record "DeviceLed"
    [Decoder.required "index" index, Decoder.required "x" Decoder.scalar,
     Decoder.required "y" Decoder.scalar, Decoder.defaulted "guard" guard] v
  return { index := ← Decoder.field index "index" found, x := ← Decoder.field Decoder.scalar "x" found,
           y := ← Decoder.field Decoder.scalar "y" found,
           guard := ← Decoder.fieldOr guard none "guard" found }

def DeviceStrip.decode : Decoder R (DeviceStrip R) := fun v => do
  let string := Decoder.string (R := R)
  let count := Decoder.word (R := R) "usize"
  let path := Decoder.optional string
  let leds := Decoder.list (DeviceLed.decode (R := R))
  let found ← Decoder.record "DeviceStrip"
    [Decoder.required "id" string, Decoder.required "name" string, Decoder.required "ledCount" count,
     Decoder.defaulted "path" path, Decoder.defaulted "leds" leds] v
  return { id := ← Decoder.field string "id" found, name := ← Decoder.field string "name" found,
           ledCount := ← Decoder.field count "ledCount" found,
           path := ← Decoder.fieldOr path none "path" found,
           leds := ← Decoder.fieldOr leds [] "leds" found }

def RotorGuard.decode : Decoder R (RotorGuard R) := fun v => do
  let found ← Decoder.record "RotorGuard"
    [Decoder.required "cx" Decoder.scalar, Decoder.required "cy" Decoder.scalar,
     Decoder.required "radius" Decoder.scalar] v
  return { cx := ← Decoder.field Decoder.scalar "cx" found, cy := ← Decoder.field Decoder.scalar "cy" found,
           radius := ← Decoder.field Decoder.scalar "radius" found }

def Canvas.decode : Decoder R (Canvas R) := fun v => do
  let found ← Decoder.record "Canvas"
    [Decoder.required "width" Decoder.scalar, Decoder.required "height" Decoder.scalar,
     Decoder.defaulted "origin" Decoder.string] v
  return { width := ← Decoder.field Decoder.scalar "width" found,
           height := ← Decoder.field Decoder.scalar "height" found,
           origin := ← Decoder.fieldOr Decoder.string "center" "origin" found }

def Device.decode : Decoder R (Device R) := fun v => do
  let string := Decoder.string (R := R)
  let guards := Decoder.optional (Decoder.entries (RotorGuard.decode (R := R)))
  let strips := Decoder.list (DeviceStrip.decode (R := R))
  let found ← Decoder.record "DeviceConfig"
    [Decoder.required "id" string, Decoder.required "name" string, Decoder.defaulted "description" string,
     Decoder.defaulted "coordinateUnit" string, Decoder.required "canvas" Canvas.decode,
     Decoder.defaulted "rotorGuards" guards, Decoder.required "strips" strips] v
  return { id := ← Decoder.field string "id" found, name := ← Decoder.field string "name" found,
           description := ← Decoder.fieldOr string "" "description" found,
           coordinateUnit := ← Decoder.fieldOr string "mm" "coordinateUnit" found,
           canvas := ← Decoder.field Canvas.decode "canvas" found,
           rotorGuards := ← Decoder.fieldOr guards none "rotorGuards" found,
           strips := ← Decoder.field strips "strips" found }

/-! ### Encoding -/

def DeviceLed.toJson (l : DeviceLed R) : Json R :=
  .mkObj <|
    [("index", .ofNat l.index), ("x", .ofScalar l.x), ("y", .ofScalar l.y)] ++
    (l.guard.map fun g => ("guard", .str g)).toList

def DeviceStrip.toJson (s : DeviceStrip R) : Json R :=
  .mkObj <|
    [("id", .str s.id), ("name", .str s.name), ("ledCount", .ofNat s.ledCount),
     ("leds", .arr (s.leds.map DeviceLed.toJson))] ++
    (s.path.map fun p => ("path", .str p)).toList

def RotorGuard.toJson (g : RotorGuard R) : Json R :=
  .mkObj [("cx", .ofScalar g.cx), ("cy", .ofScalar g.cy), ("radius", .ofScalar g.radius)]

def Canvas.toJson (c : Canvas R) : Json R :=
  .mkObj [("width", .ofScalar c.width), ("height", .ofScalar c.height), ("origin", .str c.origin)]

def Device.toJson (d : Device R) : Json R :=
  .mkObj <|
    [("id", .str d.id), ("name", .str d.name), ("description", .str d.description),
     ("coordinateUnit", .str d.coordinateUnit), ("canvas", d.canvas.toJson),
     ("strips", .arr (d.strips.map DeviceStrip.toJson))] ++
    (d.rotorGuards.map fun gs => ("rotorGuards", .obj (gs.map fun g => (g.1, g.2.toJson)))).toList

end Decoding

namespace Device

variable {R : Type} [Scalar R]

/-! ### Validity -/

/-- First fault among the LEDs of a strip, of which those in `seen` are placed already. -/
def ledFault? (guards : Option (Entries (RotorGuard R))) (strip : DeviceStrip R) :
    List Nat → List (DeviceLed R) → Option DeviceFault
  | _, [] => none
  | seen, led :: rest =>
    if strip.ledCount ≤ led.index then some (.outOfRange strip.id led.index strip.ledCount)
    else if led.index ∈ seen then some (.placedTwice strip.id led.index)
    else
      match led.guard, guards with
      | some g, some gs =>
        if Entries.contains g gs then ledFault? guards strip (led.index :: seen) rest
        else some (.unknownGuard strip.id led.index g)
      | _, _ => ledFault? guards strip (led.index :: seen) rest

/-- First fault of a description. -/
def fault? (d : Device R) : Option DeviceFault :=
  if d.strips.isEmpty then some (.noStrips d.id)
  else if d.canvas.width ≤ Scalar.ofNat 0 || d.canvas.height ≤ Scalar.ofNat 0 then some (.badCanvas d.id)
  else d.strips.findSome? fun s => ledFault? d.rotorGuards s [] s.leds

def validate (d : Device R) : Except DeviceFault Unit :=
  match d.fault? with
  | some f => .error f
  | none => .ok ()

/-- Read a description from its text. -/
def ofText (text : String) : Except DeviceFault (Device R) :=
  match Decoder.ofText decode text with
  | .error e => .error (.undecodable e)
  | .ok d => d.validate.map fun _ => d

/-! ### Geometry -/

omit [Scalar R] in
/-- LEDs of all strips, as a 64-bit word. -/
def ledCount (d : Device R) : Nat := d.strips.foldl (fun n s => n + s.ledCount) 0 % 2 ^ 64

omit [Scalar R] in
/-- Placed LEDs of strips that begin at an offset of the frame. -/
def placementsFrom (offset : Nat) : List (DeviceStrip R) → List (Placement R)
  | [] => []
  | s :: rest =>
    (s.leds.map fun l => ⟨(offset + l.index) % 2 ^ 64, l.x, l.y⟩) ++ placementsFrom (offset + s.ledCount) rest

omit [Scalar R] in
def placements (d : Device R) : List (Placement R) := placementsFrom 0 d.strips

/-- Position on a grid line of `count` cells, for a fraction of its length. -/
def gridIndex (fraction : R) (count : Nat) : Nat :=
  Scalar.toNatIn 65535
    (Scalar.round (Scalar.clamp (Scalar.ofNat 0) (Scalar.ofNat 1) fraction * Scalar.ofNat (count - 1)))

/-- Column and row of a point on a grid whose rows count downwards. -/
def cell (d : Device R) (x y : R) (cols rows : Nat) : Nat × Nat :=
  let half : R := Scalar.ofRat (1 / 2)
  (gridIndex (x / d.canvas.width + half) cols, gridIndex (half - y / d.canvas.height) rows)

/-- Cell and color of every placed LED that the frame has. -/
def cells (d : Device R) (leds : Frame) (cols rows : Nat) : List ((Nat × Nat) × Rgb) :=
  d.placements.filterMap fun p => (leds.get? p.index).map fun c => (d.cell p.x p.y cols rows, c)

/-! ### From a pack -/

variable {m : Type → Type} [Monad m]

/-- Fetch one description and check it. -/
def load (source : Source m) (id : String) : m (Except DeviceError (Device R)) := do
  match validateId id with
  | .error e => return .error (.fetch e)
  | .ok _ =>
    match ← source.fetchJson (decode (R := R)) (Resource.device id) with
    | .error e => return .error (.fetch e)
    | .ok d =>
      match d.fault? with
      | some f => return .error (.fault f)
      | none => return .ok d

end Device

/-- The only device of a list. -/
def autoSelect? : List String → Option String
  | [only] => some only
  | _ => none

end LedStrip
