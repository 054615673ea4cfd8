import Mathlib.Control.Basic
import LedStrip.Loader.Load
import LedStrip.Proofs.Effect.Options

/-!
# Panels of loaded effects

The widgets of a panel depend on the value of the state alone (`EffectPanel.build_eq`).  An effect
is loaded only if its panel can be built for the state it begins with: a description is compiled by
`specPanel`, a script is drawn once by `extractPanel`, and both for that state (`load_builds`).
-/

namespace LedStrip

/-- Whatever an action returns has a property: it is an action on values with the property, which is
then forgotten. -/
def Returns {m : Type → Type} [Functor m] {α : Type} (P : α → Prop) (x : m α) : Prop :=
  ∃ y : m (Subtype P), Subtype.val <$> y = x

namespace Returns

variable {m : Type → Type} [Monad m] [LawfulMonad m] {α β : Type} {P : α → Prop}

theorem pure {a : α} (h : P a) : Returns P (Pure.pure a : m α) := ⟨Pure.pure ⟨a, h⟩, map_pure _ _⟩

theorem bind {f : β → m α} (h : ∀ b, Returns P (f b)) (x : m β) : Returns P (x >>= f) := by
  refine ⟨x >>= fun b => (h b).choose, ?_⟩
  rw [map_bind]
  exact congrArg (x >>= ·) (funext fun b => (h b).choose_spec)

theorem imp {Q : α → Prop} {x : m α} (h : Returns P x) (hPQ : ∀ a, P a → Q a) : Returns Q x := by
  obtain ⟨y, rfl⟩ := h
  refine ⟨(fun a => ⟨a.1, hPQ a.1 a.2⟩) <$> y, ?_⟩
  rw [← comp_map]
  rfl

end Returns

/-! ### Building -/

namespace EffectPanel

variable {R : Type} [Scalar R]

/-- The widgets for the value of a state. -/
def buildFor (p : EffectPanel R) (v : Json R) : Except PanelError (Widget R) := p.build { value := v }

/-- A record counts for its value alone. -/
theorem build_eq (p : EffectPanel R) (s : PanelState R) : p.build s = p.buildFor s.value := by
  cases p <;> rfl

/-- A panel that is data is the same for every state. -/
theorem buildFor_of_not_rebuilds {p : EffectPanel R} (h : p.rebuilds = false) (v w : Json R) :
    p.buildFor v = p.buildFor w := by
  cases p with
  | spec s => rfl
  | script p => cases h

end EffectPanel

/-! ### Loading -/

namespace Loader

variable {R : Type} [Scalar R]

theorem specPanel_builds {resource text : String} {spec : PanelSpec R}
    (h : specPanel resource text = .ok spec) : ∃ w, spec.compile = .ok w := by
  unfold specPanel at h
  cases hread : PanelSpec.ofText (R := R) text with
  | error e =>
    rw [hread] at h
    cases h
  | ok spec' =>
    rw [hread] at h
    dsimp only at h
    cases hw : spec'.compile with
    | error e =>
      rw [hw] at h
      cases h
    | ok w =>
      rw [hw] at h
      cases h
      exact ⟨w, hw⟩

theorem extractPanel_builds {program : Script.Program} {exported : Entries (Script.Value R)}
    {p : ScriptPanel R} (h : extractPanel program exported = .ok p) :
    ∃ w, p.build { value := p.state } = .ok w := by
  unfold extractPanel at h
  obtain ⟨entry, -, h⟩ := Except.bind_eq_ok h
  dsimp only at h
  split at h
  · cases h
  · obtain ⟨state, -, h⟩ := Except.bind_eq_ok h
    obtain ⟨bridge, -, h⟩ := Except.bind_eq_ok h
    obtain ⟨speed, -, h⟩ := Except.bind_eq_ok h
    split at h
    · next w hw =>
      cases h
      exact ⟨w, hw⟩
    · cases h

/-- **An effect that was put together has a panel for its first state.** -/
theorem assemble_builds {mode : PanelMode} {id : String} {s : Sources} {l : LoadedEffect R}
    (h : assemble mode id s = .ok l) : ∃ w, l.panel.buildFor l.panel.initialState = .ok w := by
  unfold assemble at h
  obtain ⟨program, -, h⟩ := Except.bind_eq_ok h
  cases hvars : program.run (outerVariables (R := R) id mode) with
  | error f =>
    rw [hvars] at h
    cases h
  | ok vars =>
    rw [hvars] at h
    obtain ⟨_, hsame, h⟩ := Except.bind_eq_ok h
    cases hsame
    obtain ⟨factory, -, h⟩ := Except.bind_eq_ok h
    -- the panel is the one thing that the two modes get in different ways
    cases mode with
    | json =>
      obtain ⟨panel, hpanel, h⟩ := Except.bind_eq_ok h
      cases h
      obtain ⟨spec, hspec, rfl⟩ := Except.map_eq_ok (Except.mapError_eq_ok hpanel)
      exact specPanel_builds hspec
    | script =>
      obtain ⟨panel, hpanel, h⟩ := Except.bind_eq_ok h
      cases h
      obtain ⟨p, hp, rfl⟩ := Except.map_eq_ok (Except.mapError_eq_ok hpanel)
      exact extractPanel_builds hp

/-- **An effect is loaded only with a panel for its first state**, wherever its sources come from
and whatever a checker says. -/
theorem load_builds {m : Type → Type} [Monad m] [LawfulMonad m] (source : Source m)
    (checker : Option (Checker m)) (id : String) (mode : PanelMode) :
    Returns (fun answer : Except LoadError (LoadedEffect R) =>
        ∀ l, answer = .ok l → ∃ w, l.panel.buildFor l.panel.initialState = .ok w)
      (load source checker id mode) := by
  have failed (e : LoadError) : Returns (fun answer : Except LoadError (LoadedEffect R) =>
      ∀ l, answer = .ok l → ∃ w, l.panel.buildFor l.panel.initialState = .ok w)
      (Pure.pure (.error e) : m _) :=
    .pure fun l h => nomatch h
  unfold load
  cases validateId id with
  | error e => exact failed (.fetch e)
  | ok _ =>
    refine .bind (fun fetched => ?_) _
    cases fetched with
    | error e => exact failed (.fetch e)
    | ok sources =>
      refine .bind (fun asked => ?_) _
      cases asked with
      | error e => exact failed e
      | ok diagnostics =>
        refine .pure fun l hl => ?_
        obtain ⟨l', hl', rfl⟩ := Except.map_eq_ok hl
        exact assemble_builds (l := l') hl'

end Loader
end LedStrip
