import LedStrip.Effect.Machine

/-!
# Wave

A run of neighbouring LEDs slides along the strip, one step per frame.  A position is a 64-bit word.
-/

namespace LedStrip

structure Wave where
  color : Rgb
  /-- Number of neighbouring LEDs. -/
  width : Nat
  position : Nat := 0
deriving DecidableEq, Repr

namespace Wave

variable {R : Type} [Scalar R]

def defaultSpeed : Nat := 100

def defaultColor : Rgb := ⟨52, 211, 153⟩

def defaultWidth : Nat := 5

/-- The same wave from another position; the next frame wraps it into the strip. -/
def withPosition (s : Wave) (position : Nat) : Wave := { s with position }

def ofOptions (o : EffectOptions R) : Except EffectError Wave := do
  let color ← o.colorOr "color" defaultColor
  let width ← o.countOr "waveWidth" defaultWidth
  return { color, width }

/-- LED that is `i` steps ahead of the position. -/
def ahead (s : Wave) (ledCount i : Nat) : Nat := (s.position + i) % 2 ^ 64 % ledCount

/-- The frame of the current position. -/
def frame (s : Wave) (ledCount : Nat) : Frame :=
  (List.range s.width).foldl (fun f i => f.set (s.ahead ledCount i) s.color) (Frame.blank ledCount)

def tick (s : Wave) (ledCount : Nat) : Frame × Wave :=
  if ledCount = 0 then (Frame.blank 0, s)
  else (s.frame ledCount, { s with position := s.ahead ledCount 1 })

def setConfig (s : Wave) (key : String) (v : Json R) : Except EffectError Unit × Wave :=
  if key = "color" then
    match colorValue v with
    | .ok c => (.ok (), { s with color := c })
    | .error e => (.error e, s)
  else if key = "waveWidth" then
    match positiveCount key v with
    | .ok n => (.ok (), { s with width := n })
    | .error e => (.error e, s)
  else (.ok (), s)

instance : Effect R Wave where
  onTick s n := let (f, s) := s.tick n; (.ok f, s)
  onReset s := (.ok (), { s with position := 0 })
  onSetConfig := setConfig

end Wave
end LedStrip
