import LedStrip.Proofs.Effect.Alike

/-!
# Hooks that a machine calls

`Watched σ` is the effect `σ` with a note of every hook that is called.  Watching changes nothing
(`mapEffect_calls_watched`), so the notes tell which hooks any machine calls: those of
`Machine.hooks`, call by call (`seen_call`).
-/

namespace LedStrip

/-- A hook that was called, with its arguments. -/
inductive HookCall (R : Type) where
  | tick (ledCount : Nat)
  | reset
  | setConfig (key : String) (v : Json R)

/-- An effect with the hooks that were called so far, oldest first. -/
structure Watched (R σ : Type) where
  effect : σ
  seen : List (HookCall R) := []

namespace Watched

variable {R σ : Type}

def note (w : Watched R σ) (effect : σ) (c : HookCall R) : Watched R σ := ⟨effect, w.seen ++ [c]⟩

instance [Effect R σ] : Effect R (Watched R σ) where
  onTick w n := (Effect.onTick R w.effect n).map id (w.note · (.tick n))
  onReset w := (Effect.onReset R w.effect).map id (w.note · .reset)
  onSetConfig w key v := (Effect.onSetConfig w.effect key v).map id (w.note · (.setConfig key v))

/-- A watched effect behaves as the effect. -/
theorem simulates [Effect R σ] (ledCount : Nat) :
    Simulates (R := R) ledCount (fun _ _ => True) fun (w : Watched R σ) s => w.effect = s where
  onTick h := by subst h; exact ⟨rfl, rfl⟩
  onReset h := by subst h; exact ⟨rfl, rfl⟩
  onSetConfig h _ _ := by subst h; exact ⟨rfl, rfl⟩

end Watched

namespace Machine

variable {R σ : Type}

/-- The same machine, its effect watched from now on. -/
def watched (m : Machine R σ) : Machine R (Watched R σ) := m.mapEffect (⟨·, []⟩)

/-- The hooks that a call runs: a tick asks for a frame only while the machine runs, and the
interval is no business of the effect. -/
def hooks (m : Machine R σ) : Call R → List (HookCall R)
  | .stop => [.reset]
  | .tick => if m.status = .running then [.tick m.ledCount] else []
  | .setConfig key v => if key = "speed" then [] else [.setConfig key v]
  | _ => []

theorem Call.within_true (c : Call R) : c.Within fun _ _ => True := by
  cases c with
  | setConfig key v => exact fun _ => trivial
  | _ => trivial

variable [Scalar R] [Effect R σ]

theorem alike_calls_watched (m : Machine R σ) (cs : List (Call R)) :
    Alike (fun (w : Watched R σ) s => w.effect = s) (m.watched.calls cs) (m.calls cs) :=
  Alike.calls (Watched.simulates _) ⟨rfl, rfl⟩ fun c _ => c.within_true

omit [Scalar R] in
theorem effectId_tick (m : Machine R σ) : m.tick.2.effectId = m.effectId := by
  obtain ⟨_, _, h⟩ := tick_eq m
  rw [h]

@[simp] theorem effectId_call (m : Machine R σ) (c : Call R) :
    (m.call c).effectId = m.effectId := by
  have moved (source target : Status) : (m.transition source target).2.effectId = m.effectId := by
    unfold transition; split <;> rfl
  cases c with
  | start => exact moved _ _
  | pause => exact moved _ _
  | resume => exact moved _ _
  | stop => rfl
  | tick => exact effectId_tick m
  | setSpeed ms => rfl
  | setConfig key v =>
    show (m.setConfig key v).2.effectId = m.effectId
    rcases setConfig_cases m key v with ⟨_, h⟩ | ⟨_, h⟩
    · rw [h]
    · rw [h]; rfl

@[simp] theorem effectId_calls (m : Machine R σ) (cs : List (Call R)) :
    (m.calls cs).effectId = m.effectId := by
  induction cs generalizing m with
  | nil => rfl
  | cons c cs ih => rw [calls_cons, ih, effectId_call]

/-- Watching changes nothing. -/
theorem mapEffect_calls_watched (m : Machine R σ) (cs : List (Call R)) :
    (m.watched.calls cs).mapEffect Watched.effect = m.calls cs := by
  have h := alike_calls_watched m cs
  have hid : (m.watched.calls cs).effectId = (m.calls cs).effectId := by
    rw [effectId_calls, effectId_calls]; rfl
  have hstatus := h.status
  have hspeed := h.speed
  have hcount := h.ledCount
  have hleds := h.leds
  have heffect := h.effect
  generalize m.watched.calls cs = w at *
  generalize m.calls cs = m' at *
  cases w; cases m'
  simp_all [mapEffect]

/-- A watched machine notes the hooks of a call, each once. -/
theorem seen_call (w : Machine R (Watched R σ)) (c : Call R) :
    (w.call c).effect.seen = w.effect.seen ++ w.hooks c := by
  have moved (source target : Status) :
      (w.transition source target).2.effect.seen = w.effect.seen ++ [] := by
    unfold transition; split <;> simp
  cases c with
  | start => exact moved _ _
  | pause => exact moved _ _
  | resume => exact moved _ _
  | stop => rfl
  | tick =>
    show w.tick.2.effect.seen =
      w.effect.seen ++ if w.status = .running then [.tick w.ledCount] else []
    by_cases h : w.status = .running
    · rw [if_pos h]
      rcases tick_of_running h with ⟨f, -, ht⟩ | ⟨e, ht⟩
      · rw [ht]; rfl
      · rw [ht]; rfl
    · rw [if_neg h, tick_of_not_running h, List.append_nil]
  | setSpeed ms => exact (List.append_nil _).symm
  | setConfig key v =>
    show (w.setConfig key v).2.effect.seen =
      w.effect.seen ++ if key = "speed" then [] else [.setConfig key v]
    by_cases hk : key = "speed"
    · subst hk
      rw [if_pos rfl, List.append_nil]
      cases hv : speedValue v with
      | error e => rw [setConfig_speed_error w hv]
      | ok ms => rw [setConfig_speed_ok w hv]; rfl
    · rw [if_neg hk, setConfig_of_ne w hk]
      rfl

end Machine
end LedStrip
