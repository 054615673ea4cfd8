import LedStrip.Color

/-!
# Frames

A frame is a vector of bytes in which LED `i` has the three bytes from `3 * i` on.  Bytes beyond the last whole triple
belong to no LED.  Byte offsets are 64-bit words: painting computes `3 * i` modulo `2 ^ 64`, reading does not wrap.
-/

namespace LedStrip

structure Frame where
  bytes : Array UInt8
deriving DecidableEq, Inhabited

namespace Frame

/-- Bytes of a strip of `ledCount` LEDs. -/
def byteCount (ledCount : Nat) : Nat := 3 * ledCount % 2 ^ 64

/-- All LEDs dark. -/
def blank (ledCount : Nat) : Frame := ⟨Array.replicate (byteCount ledCount) 0⟩

def size (f : Frame) : Nat := f.bytes.size

def ledCount (f : Frame) : Nat := f.size / 3

/-- Color of an LED. -/
def get? (f : Frame) (i : Nat) : Option Rgb :=
  match f.bytes[3 * i]?, f.bytes[3 * i + 1]?, f.bytes[3 * i + 2]? with
  | some r, some g, some b => some ⟨r, g, b⟩
  | _, _, _ => none

/-- Write a color at a byte offset, if all three bytes are there. -/
def write (f : Frame) (offset : Nat) (c : Rgb) : Frame :=
  if offset + 3 ≤ f.size then
    ⟨((f.bytes.setIfInBounds offset c.r).setIfInBounds (offset + 1) c.g).setIfInBounds (offset + 2) c.b⟩
  else f

/-- Paint one LED. -/
def set (f : Frame) (i : Nat) (c : Rgb) : Frame := f.write (3 * i % 2 ^ 64) c

/-- The byte of a color at a position in its triple. -/
def channelAt (c : Rgb) (k : Nat) : UInt8 := if k = 0 then c.r else if k = 1 then c.g else c.b

/-- Paint all LEDs. -/
def fill (f : Frame) (c : Rgb) : Frame :=
  ⟨f.bytes.mapIdx fun i b => if i < 3 * f.ledCount then channelAt c (i % 3) else b⟩

/-- Colors of the whole triples among some bytes. -/
def triples : List UInt8 → List Rgb
  | r :: g :: b :: rest => ⟨r, g, b⟩ :: triples rest
  | _ => []

/-- Colors from the first LED to the last. -/
def pixels (f : Frame) : List Rgb := triples f.bytes.toList

/-- Indices of LEDs that are not dark. -/
def lit (f : Frame) : List Nat := (f.pixels.zipIdx.filter fun p => p.1.isLit).map Prod.snd

/-- One group of six digits per LED, separated by blanks. -/
def toHex (f : Frame) : String := " ".intercalate (f.pixels.map Rgb.toHex)

/-- All bytes, without separators. -/
def bytesHex (f : Frame) : String := f.bytes.foldl (fun s b => s ++ Text.byteHex b) ""

/-- Text for a log. -/
def describe (f : Frame) : String := s!"LedBuffer[{f.ledCount}]({f.toHex})"

/-! ### Sizes -/

@[simp] theorem size_blank (n : Nat) : (blank n).size = byteCount n := by
  simp [blank, size]

@[simp] theorem size_write (f : Frame) (o : Nat) (c : Rgb) : (f.write o c).size = f.size := by
  unfold write; split <;> simp [size]

@[simp] theorem size_set (f : Frame) (i : Nat) (c : Rgb) : (f.set i c).size = f.size := by
  simp [set]

@[simp] theorem size_fill (f : Frame) (c : Rgb) : (f.fill c).size = f.size := by
  simp [fill, size]

end Frame
end LedStrip
