import LedStrip.Effect.Basic

/-!
# Options of an effect

What a factory is told: the length of the strip, the tick interval, and parameters under free keys.  A length or an
interval of zero counts as absent.  The readers below give a parameter its type; each says which values stand for the
default.
-/

namespace LedStrip

/-- Length of a strip for which nothing else was asked. -/
def defaultLedCount : Nat := 20

/-- A number that is finite. -/
def finiteNumber {R : Type} [Scalar R] (key : String) (v : Json R) : Except EffectError R :=
  match v.asNumber?.filter Scalar.isFinite with
  | some x => .ok x
  | none => .error (.invalidValue key s!"expected a number, got {v.text}")

/-- The whole part of a number, at least one. -/
def positiveCount {R : Type} [Scalar R] (key : String) (v : Json R) : Except EffectError Nat := do
  let x := Scalar.trunc (← finiteNumber key v)
  if Scalar.ofNat 1 ≤ x then return Scalar.toWord x
  else throw (.invalidValue key s!"expected a positive count, got {v.text}")

/-- A color value. -/
def colorValue {R : Type} [Scalar R] (v : Json R) : Except EffectError Rgb :=
  match rgbOfJson v with
  | .ok c => .ok c
  | .error e => .error (.color e)

structure EffectOptions (R : Type) where
  ledCount? : Option Nat := none
  speed? : Option Nat := none
  params : Entries (Json R) := []

namespace EffectOptions

variable {R : Type} [Scalar R]

instance : Inhabited (EffectOptions R) := ⟨{}⟩

def withLedCount (n : Nat) : EffectOptions R := { ledCount? := some n }

/-- A copy with one parameter set. -/
def withParam (o : EffectOptions R) (key : String) (v : Json R) : EffectOptions R :=
  { o with params := Entries.insert key v o.params }

def ledCount (o : EffectOptions R) : Nat := (o.ledCount?.filter (0 < ·)).getD defaultLedCount

def speedOr (o : EffectOptions R) (default : Nat) : Nat := (o.speed?.filter (0 < ·)).getD default

/-- A parameter that is there and not `null`. -/
def param? (o : EffectOptions R) (key : String) : Option (Json R) :=
  (Entries.get? key o.params).filter fun v => !v.isNull

/-! ### Typed parameters -/

/-- A count; absence and zero give the default. -/
def countOr (o : EffectOptions R) (key : String) (default : Nat) : Except EffectError Nat :=
  match o.param? key with
  | none => .ok default
  | some v =>
    if (v.asNumber?.map (· == Scalar.ofInt 0)).getD false then .ok default
    else positiveCount key v

/-- A number; absence and zero give the default. -/
def numberOr (o : EffectOptions R) (key : String) (default : R) : Except EffectError R :=
  match o.param? key with
  | none => .ok default
  | some v => (finiteNumber key v).map fun x => if x == Scalar.ofInt 0 then default else x

/-- A number; only absence gives the default. -/
def numberPresentOr (o : EffectOptions R) (key : String) (default : R) : Except EffectError R :=
  match o.param? key with
  | none => .ok default
  | some v => finiteNumber key v

/-- A color; absence gives the default. -/
def colorOr (o : EffectOptions R) (key : String) (default : Rgb) : Except EffectError Rgb :=
  match o.param? key with
  | none => .ok default
  | some v => colorValue v

/-! ### As JSON -/

/-- Read the members of an object: two have a type, the others are parameters. -/
def decodeMembers (o : EffectOptions R) (led speed : Bool) :
    List (String × Json R) → Except DecodeError (EffectOptions R)
  | [] => .ok o
  | (k, v) :: rest =>
    if k = "ledCount" then
      if led then .error (.duplicateField k)
      else do decodeMembers { o with ledCount? := ← Decoder.optional (Decoder.word "usize") v } true speed rest
    else if k = "speed" then
      if speed then .error (.duplicateField k)
      else do decodeMembers { o with speed? := ← Decoder.optional (Decoder.word "u64") v } led true rest
    else decodeMembers (o.withParam k v.canonical) led speed rest

def decode : Decoder R (EffectOptions R)
  | .obj members => decodeMembers {} false false members
  | v => Decoder.wrongType "struct EffectConfig" v

def toJson (o : EffectOptions R) : Json R :=
  .mkObj <|
    (o.ledCount?.map fun n => ("ledCount", .ofNat n)).toList ++
    (o.speed?.map fun n => ("speed", .ofNat n)).toList ++ o.params

end EffectOptions
end LedStrip
