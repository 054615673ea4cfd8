import LedStrip.Effect.Machine

/-!
# Rainbow

The hue grows by a fixed spread from LED to LED and the whole strip turns by a fixed step per frame.
-/

namespace LedStrip

structure Rainbow (R : Type) where
  hueStep : R
  hueSpread : R
  saturation : R
  brightness : R
  /-- Hue of the first LED, in `[0, 360)`. -/
  offset : R
deriving Repr

namespace Rainbow

variable {R : Type} [Scalar R]

def defaultSpeed : Nat := 100

def defaultHueStep : R := Scalar.ofNat 10

def defaultHueSpread : R := Scalar.ofNat 18

def default : Rainbow R :=
  ⟨defaultHueStep, defaultHueSpread, Scalar.ofNat 1, Scalar.ofNat 1, Scalar.ofNat 0⟩

def ofOptions (o : EffectOptions R) : Except EffectError (Rainbow R) := do
  let hueStep ← o.numberOr "hueStep" defaultHueStep
  let hueSpread ← o.numberOr "hueSpread" defaultHueSpread
  let saturation ← o.numberPresentOr "saturation" (Scalar.ofNat 1)
  let brightness ← o.numberPresentOr "brightness" (Scalar.ofNat 1)
  return ⟨hueStep, hueSpread, saturation, brightness, Scalar.ofNat 0⟩

/-- Hue of an LED on the next frame. -/
def hueAt (s : Rainbow R) (i : Nat) : R :=
  Scalar.floorMod (Scalar.ofNat i * s.hueSpread + s.offset) (Scalar.ofNat 360)

def frame (s : Rainbow R) (ledCount : Nat) : Frame :=
  (List.range ledCount).foldl
    (fun f i => f.set i (Rgb.ofHsv (s.hueAt i) s.saturation s.brightness)) (Frame.blank ledCount)

def setConfig (s : Rainbow R) (key : String) (v : Json R) : Except EffectError Unit × Rainbow R :=
  let put (change : R → Rainbow R) : Except EffectError Unit × Rainbow R :=
    match finiteNumber key v with
    | .ok x => (.ok (), change x)
    | .error e => (.error e, s)
  if key = "hueStep" then put fun x => { s with hueStep := x }
  else if key = "hueSpread" then put fun x => { s with hueSpread := x }
  else if key = "saturation" then put fun x => { s with saturation := x }
  else if key = "brightness" then put fun x => { s with brightness := x }
  else (.ok (), s)

instance : Effect R (Rainbow R) where
  onTick s n :=
    (.ok (s.frame n),
      { s with offset := Scalar.floorMod (s.offset + s.hueStep) (Scalar.ofNat 360) })
  onReset s := (.ok (), { s with offset := Scalar.ofNat 0 })
  onSetConfig := setConfig

end Rainbow
end LedStrip
