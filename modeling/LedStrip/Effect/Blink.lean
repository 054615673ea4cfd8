import LedStrip.Effect.Machine

/-!
# Blink

All LEDs show the color on every other frame, beginning with the first.
-/

namespace LedStrip

structure Blink where
  color : Rgb
  on : Bool := false
deriving DecidableEq, Repr

namespace Blink

variable {R : Type} [Scalar R]

def defaultSpeed : Nat := 200

def defaultColor : Rgb := ⟨217, 70, 239⟩

def ofOptions (o : EffectOptions R) : Except EffectError Blink := do
  return { color := ← o.colorOr "color" defaultColor }

def frame (s : Blink) (ledCount : Nat) : Frame :=
  if s.on then (Frame.blank ledCount).fill s.color else Frame.blank ledCount

def setConfig (s : Blink) (key : String) (v : Json R) : Except EffectError Unit × Blink :=
  if key = "color" then
    match colorValue v with
    | .ok c => (.ok (), { s with color := c })
    | .error e => (.error e, s)
  else (.ok (), s)

instance : Effect R Blink where
  onTick s n :=
    let s := { s with on := !s.on }
    (.ok (s.frame n), s)
  onReset s := (.ok (), { s with on := false })
  onSetConfig := setConfig

end Blink
end LedStrip
