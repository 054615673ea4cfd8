import LedStrip.Frame

/-!
# Effects

An effect computes one frame per tick from a state of its own.  `Effect R σ` says how a state `σ` answers the three hooks
of a machine; a hook may fail, and its new state counts even then.  Parameter values are JSON over the scalars `R`.
-/

namespace LedStrip

/-- Where in the life of an effect an error arose. -/
inductive Hook where
  | create
  | tick
  | reset
  | setConfig
deriving DecidableEq, Repr

namespace Hook

def name : Hook → String
  | create => "create"
  | tick => "on_tick"
  | reset => "on_reset"
  | setConfig => "on_set_config"

end Hook

inductive EffectError where
  | hook (hook : Hook) (reason : String)
  | frameSize (expected actual : Nat)
  | invalidValue (key reason : String)
  | color (e : ColorError)
deriving DecidableEq, Repr

namespace EffectError

/-- Name of the error for a program that reads it. -/
def kind : EffectError → String
  | hook _ _ => "Hook"
  | frameSize _ _ => "BufferLength"
  | invalidValue _ _ => "InvalidConfig"
  | color e => e.kind

def message : EffectError → String
  | hook h reason => s!"{h.name} hook failed: {reason}"
  | frameSize expected actual => s!"Effect produced {actual} bytes, expected {expected}"
  | invalidValue key reason => s!"Invalid value for '{key}': {reason}"
  | color e => e.message

end EffectError

/-- The hooks of an effect with state `σ`. -/
class Effect (R : Type) (σ : Type) where
  /-- The next frame for a strip of the given length. -/
  onTick : σ → Nat → Except EffectError Frame × σ
  /-- Back to the initial counters. -/
  onReset : σ → Except EffectError Unit × σ := fun s => (.ok (), s)
  /-- A new value for a parameter; a key the effect does not know changes nothing. -/
  onSetConfig : σ → String → Json R → Except EffectError Unit × σ := fun s _ _ => (.ok (), s)

/-- Of two kinds of effect, either. -/
instance {R α β : Type} [Effect R α] [Effect R β] : Effect R (α ⊕ β) where
  onTick
    | .inl s, n => let (r, s) := Effect.onTick R s n; (r, .inl s)
    | .inr s, n => let (r, s) := Effect.onTick R s n; (r, .inr s)
  onReset
    | .inl s => let (r, s) := Effect.onReset R s; (r, .inl s)
    | .inr s => let (r, s) := Effect.onReset R s; (r, .inr s)
  onSetConfig
    | .inl s, k, v => let (r, s) := Effect.onSetConfig s k v; (r, .inl s)
    | .inr s, k, v => let (r, s) := Effect.onSetConfig s k v; (r, .inr s)

end LedStrip
