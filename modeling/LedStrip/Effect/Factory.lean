import LedStrip.Effect.Blink
import LedStrip.Effect.Chase
import LedStrip.Effect.Rainbow
import LedStrip.Effect.Wave

/-!
# Factories and the registry

A factory makes machines of one effect.  The four built-in effects share the state type `Builtin`, and a `Registry` finds
factories by id, in the order of their ids.
-/

namespace LedStrip

/-- Makes machines whose effects have states `σ`. -/
structure Factory (R σ : Type) where
  id : String
  name : String
  description : String
  create : EffectOptions R → Except EffectError (Machine R σ)

namespace Factory

variable {R σ τ : Type}

/-- The same factory with another presentation of its effects. -/
def mapEffect (f : σ → τ) (factory : Factory R σ) : Factory R τ :=
  { factory with create := fun o => (factory.create o).map (·.mapEffect f) }

end Factory

/-! ### Built-in effects -/

inductive Builtin (R : Type) where
  | blink (s : Blink)
  | chase (s : Chase)
  | rainbow (s : Rainbow R)
  | wave (s : Wave)

namespace Builtin

variable {R : Type} [Scalar R]

instance : Effect R (Builtin R) where
  onTick
    | blink s, n => (Effect.onTick R s n).map id blink
    | chase s, n => (Effect.onTick R s n).map id chase
    | rainbow s, n => (Effect.onTick R s n).map id rainbow
    | wave s, n => (Effect.onTick R s n).map id wave
  onReset
    | blink s => (Effect.onReset R s).map id blink
    | chase s => (Effect.onReset R s).map id chase
    | rainbow s => (Effect.onReset R s).map id rainbow
    | wave s => (Effect.onReset R s).map id wave
  onSetConfig
    | blink s, k, v => (Effect.onSetConfig s k v).map id blink
    | chase s, k, v => (Effect.onSetConfig s k v).map id chase
    | rainbow s, k, v => (Effect.onSetConfig s k v).map id rainbow
    | wave s, k, v => (Effect.onSetConfig s k v).map id wave

/-- A factory that reads the parameters with `build`. -/
def factory (id name description : String) (defaultSpeed : Nat)
    (build : EffectOptions R → Except EffectError (Builtin R)) : Factory R (Builtin R) where
  id := id
  name := name
  description := description
  create o := do return Machine.create id o.ledCount (o.speedOr defaultSpeed) (← build o)

def blinkFactory : Factory R (Builtin R) :=
  factory "blink" "Blink" "All LEDs toggle on/off in unison" Blink.defaultSpeed
    fun o => (Blink.ofOptions o).map blink

def chaseFactory : Factory R (Builtin R) :=
  factory "chase" "Chase" "Evenly spaced LEDs chase around the ring" Chase.defaultSpeed
    fun o => (Chase.ofOptions o).map chase

def rainbowFactory : Factory R (Builtin R) :=
  factory "rainbow" "Rainbow" "A rotating rainbow across every LED" Rainbow.defaultSpeed
    fun o => (Rainbow.ofOptions o).map rainbow

def waveFactory : Factory R (Builtin R) :=
  factory "wave" "Wave" "A band of adjacent LEDs slides along the strip" Wave.defaultSpeed
    fun o => (Wave.ofOptions o).map wave

def factories : List (Factory R (Builtin R)) :=
  [blinkFactory, chaseFactory, rainbowFactory, waveFactory]

end Builtin

/-! ### Registry -/

structure Registry (R σ : Type) where
  byId : Entries (Factory R σ)

namespace Registry

variable {R σ : Type}

def empty : Registry R σ := ⟨[]⟩

/-- Add a factory; one of the same id is replaced. -/
def register (r : Registry R σ) (f : Factory R σ) : Registry R σ := ⟨Entries.insert f.id f r.byId⟩

def registerAll (r : Registry R σ) (fs : List (Factory R σ)) : Registry R σ := fs.foldl register r

def find? (r : Registry R σ) (id : String) : Option (Factory R σ) := Entries.get? id r.byId

def contains (r : Registry R σ) (id : String) : Bool := (r.find? id).isSome

/-- Ids in order. -/
def ids (r : Registry R σ) : List String := Entries.keys r.byId

/-- Factories in the order of their ids. -/
def all (r : Registry R σ) : List (Factory R σ) := Entries.values r.byId

def size (r : Registry R σ) : Nat := r.byId.length

/-- The built-in effects. -/
def builtin [Scalar R] : Registry R (Builtin R) := empty.registerAll Builtin.factories

end Registry
end LedStrip
