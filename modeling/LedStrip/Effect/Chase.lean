import LedStrip.Effect.Machine

/-!
# Chase

Evenly spaced LEDs run around the strip, one step per frame.
-/

namespace LedStrip

structure Chase where
  color : Rgb
  /-- Number of running LEDs. -/
  count : Nat
  position : Nat := 0
deriving DecidableEq, Repr

namespace Chase

variable {R : Type} [Scalar R]

def defaultSpeed : Nat := 80

def defaultColor : Rgb := ⟨251, 191, 36⟩

def defaultCount : Nat := 2

def create (color : Rgb) (count : Nat) : Chase := { color, count := max count 1 }

def ofOptions (o : EffectOptions R) : Except EffectError Chase := do
  let color ← o.colorOr "color" defaultColor
  let count ← o.countOr "chaseCount" defaultCount
  return create color count

/-- The frame of the current position. -/
def frame (s : Chase) (ledCount : Nat) : Frame :=
  let gap := ledCount / s.count
  (List.range s.count).foldl (fun f i => f.set ((s.position + gap * i) % ledCount) s.color)
    (Frame.blank ledCount)

def tick (s : Chase) (ledCount : Nat) : Frame × Chase :=
  if ledCount = 0 then (Frame.blank 0, s)
  else (s.frame ledCount, { s with position := (s.position + 1) % ledCount })

def setConfig (s : Chase) (key : String) (v : Json R) : Except EffectError Unit × Chase :=
  if key = "color" then
    match colorValue v with
    | .ok c => (.ok (), { s with color := c })
    | .error e => (.error e, s)
  else if key = "chaseCount" then
    match positiveCount key v with
    | .ok n => (.ok (), { s with count := n })
    | .error e => (.error e, s)
  else (.ok (), s)

instance : Effect R Chase where
  onTick s n := let (f, s) := s.tick n; (.ok f, s)
  onReset s := (.ok (), { s with position := 0 })
  onSetConfig := setConfig

end Chase
end LedStrip
