import LedStrip.Json.Decode
import LedStrip.Json.Printer

/-!
# Colors

An `Rgb` is what an LED shows.  A `TaggedColor` names its model, `rgb` or `hsv`, and is what configurations carry:
`ofJson` reads one under the tag `mode` or else `kind`, `toJson` writes one under `mode`.  `Rgb.ofHsv` converts hue in
degrees, and saturation and value as fractions, in the arithmetic of the scalars.
-/

namespace LedStrip

structure Rgb where
  r : UInt8
  g : UInt8
  b : UInt8
deriving DecidableEq, Repr, Inhabited

inductive TaggedColor (R : Type) where
  | rgb (r g b : UInt8)
  | hsv (h s v : R)
deriving Repr

inductive ColorError where
  | invalidKind (kind : String)
  | notObject (found : String)
  | missingMode
  | missingField (mode field : String)
  | outOfRange (field found : String)
deriving DecidableEq, Repr

namespace ColorError

/-- Name of the error for a program that reads it. -/
def kind : ColorError → String
  | invalidKind _ => "InvalidColorKind"
  | _ => "MalformedColor"

def message : ColorError → String
  | invalidKind kind => s!"Invalid color kind: {kind}"
  | notObject found => s!"Malformed color: expected an object, got {found}"
  | missingMode => "Malformed color: missing color mode"
  | missingField mode field => s!"Malformed color: {mode} color missing '{field}'"
  | outOfRange field found => s!"Malformed color: channel '{field}' out of range: {found}"

end ColorError

namespace Rgb

variable {R : Type} [Scalar R]

def black : Rgb := ⟨0, 0, 0⟩

def isLit (c : Rgb) : Bool := c != black

def toHex (c : Rgb) : String := Text.byteHex c.r ++ Text.byteHex c.g ++ Text.byteHex c.b

/-! ### From hue, saturation and value -/

/-- Channels before rounding, in `[0, 1]` for a saturation and a value in `[0, 1]`. -/
def hsvChannels (h s v : R) : R × R × R :=
  let n : Nat → R := Scalar.ofNat
  let h := Scalar.floorMod h (n 360)
  let c := v * s
  let x := c * (n 1 - Scalar.abs (Scalar.rem (h / n 60) (n 2) - n 1))
  let m := v - c
  let (r, g, b) :=
    if h < n 60 then (c, x, n 0)
    else if h < n 120 then (x, c, n 0)
    else if h < n 180 then (n 0, c, x)
    else if h < n 240 then (n 0, x, c)
    else if h < n 300 then (x, n 0, c)
    else (c, n 0, x)
  (r + m, g + m, b + m)

/-- A channel in `[0, 1]` as a byte. -/
def channelByte (f : R) : UInt8 :=
  let n : Nat → R := Scalar.ofNat
  Scalar.toByte (Scalar.clamp (n 0) (n 255) (Scalar.round (f * n 255)))

def ofHsv (h s v : R) : Rgb :=
  let (r, g, b) := hsvChannels h s v
  ⟨channelByte r, channelByte g, channelByte b⟩

end Rgb

namespace TaggedColor

variable {R : Type} [Scalar R]

def toRgb : TaggedColor R → Rgb
  | rgb r g b => ⟨r, g, b⟩
  | hsv h s v => Rgb.ofHsv h s v

def ofRgb (c : Rgb) : TaggedColor R := rgb c.r c.g c.b

/-- A channel by name, as a number. -/
def channel (mode : String) (members : Entries (Json R)) (field : String) : Except ColorError R :=
  match (Entries.get? field members).bind Json.asNumber? with
  | some x => .ok x
  | none => .error (.missingField mode field)

/-- An RGB channel: a number from 0 to 255, rounded. -/
def byteChannel (members : Entries (Json R)) (field : String) : Except ColorError UInt8 := do
  let x ← channel "rgb" members field
  if Scalar.ofNat 0 ≤ x && x ≤ Scalar.ofNat 255 then return Scalar.toByte (Scalar.round x)
  else throw (.outOfRange field (Scalar.text .plain x))

/-- The tag stands under `mode`, and under `kind` only where there is no `mode`. -/
def tag? (members : Entries (Json R)) : Option String :=
  ((Entries.get? "mode" members).or (Entries.get? "kind" members)).bind Json.asString?

def ofJson (v : Json R) : Except ColorError (TaggedColor R) :=
  match v with
  | .obj members =>
    match tag? members with
    | none => .error .missingMode
    | some "rgb" => do
      let r ← byteChannel members "r"
      let g ← byteChannel members "g"
      let b ← byteChannel members "b"
      return rgb r g b
    | some "hsv" => do
      let h ← channel "hsv" members "h"
      let s ← channel "hsv" members "s"
      let v ← channel "hsv" members "v"
      return hsv h s v
    | some other => .error (.invalidKind other)
  | v => .error (.notObject v.text)

/-- The tag under `mode` beside the channels; a channel that is not finite becomes `null`. -/
def toJson : TaggedColor R → Json R
  | rgb r g b =>
    .mkObj [("mode", .str "rgb"), ("r", .ofNat r.toNat), ("g", .ofNat g.toNat), ("b", .ofNat b.toNat)]
  | hsv h s v =>
    .mkObj [("mode", .str "hsv"), ("h", .ofScalar h), ("s", .ofScalar s), ("v", .ofScalar v)]

/-- Decode a color out of a document. -/
def decode : Decoder R (TaggedColor R) := fun v =>
  match ofJson v.canonical with
  | .ok c => .ok c
  | .error e => .error (.refused e.message)

end TaggedColor

/-- The color that a configuration value shows. -/
def rgbOfJson {R : Type} [Scalar R] (v : Json R) : Except ColorError Rgb :=
  (TaggedColor.ofJson v).map TaggedColor.toRgb

end LedStrip
