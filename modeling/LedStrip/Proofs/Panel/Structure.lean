import LedStrip.Proofs.Panel.Compile

/-!
# Errors of the structure

Three errors of a compilation are about the elements as a graph: a root that is missing, a child
that is missing, and a cycle.  A description in which all that is reachable is defined and lies on
no cycle gives none of them (`not_isStructural_of_compile`); what is wrong with it is wrong with
some element by itself.
-/

namespace LedStrip

/-- Errors about the elements as a graph. -/
def PanelError.IsStructural : PanelError → Prop
  | missingRoot _ | danglingChild _ _ | cycle _ => True
  | _ => False

namespace PanelSpec

variable {R : Type} [Scalar R] {spec : PanelSpec R} {path : List String} {id : String}
  {e : PanelError}

theorem not_isStructural_of_compileProp {c : Component} {name : String} {v : Json R}
    (h : compileProp id c name v = .error e) : ¬ e.IsStructural := by
  unfold compileProp at h
  split at h
  · cases h
    exact not_false
  · split at h
    · cases h
      exact not_false
    · cases h
    · split at h
      · cases h
      · split at h
        · cases h
          exact not_false
        · cases h

theorem not_isStructural_of_compilePropList {c : Component} {raw : Entries (Json R)}
    (h : compilePropList id c raw = .error e) : ¬ e.IsStructural := by
  induction raw with
  | nil => cases h
  | cons p rest ih =>
    obtain ⟨name, v⟩ := p
    rw [compilePropList] at h
    rcases hp : compileProp id c name v with e' | p
    · rw [hp] at h
      cases h
      exact not_isStructural_of_compileProp hp
    · rcases hps : compilePropList id c rest with e' | ps
      · rw [hp, hps] at h
        cases h
        exact ih hps
      · rw [hp, hps] at h
        cases h

theorem not_isStructural_of_compileProps {c : Component} {raw : Entries (Json R)}
    (h : compileProps id c raw = .error e) : ¬ e.IsStructural := by
  unfold compileProps at h
  rcases hps : compilePropList id c raw with e' | ps
  · rw [hps] at h
    cases h
    exact not_isStructural_of_compilePropList hps
  · simp only [hps, bind, Except.bind] at h
    split at h
    · cases h
      exact not_false
    · cases h

/-- A list of results fails with an error of one of them. -/
theorem exists_error_of_mapM {α β ε : Type} {f : α → Except ε β} {xs : List α} {e : ε}
    (h : xs.mapM f = .error e) : ∃ x ∈ xs, f x = .error e := by
  induction xs with
  | nil => cases h
  | cons x xs ih =>
    rw [List.mapM_cons] at h
    rcases hx : f x with e' | y
    · rw [hx] at h
      cases h
      exact ⟨x, List.mem_cons_self, hx⟩
    · rcases hxs : xs.mapM f with e' | ys
      · rw [hx, hxs] at h
        cases h
        obtain ⟨y, hy, he⟩ := ih hxs
        exact ⟨y, List.mem_cons_of_mem _ hy, he⟩
      · rw [hx, hxs] at h
        cases h

open Relation

/-- With enough fuel, an element gives no error of the structure if all that is reachable from it is
defined and lies on no cycle. -/
theorem not_isStructural_of_compileElement {fuel : Nat} (hway : Way spec path)
    (hfuel : spec.elements.length < fuel + path.length)
    (habove : ∀ a ∈ path, TransGen spec.Child a id)
    (hdefined : ∀ b, spec.Reaches id b → ∃ element, Entries.get? b spec.elements = some element)
    (hacyclic : ∀ b, spec.Reaches id b → ¬ TransGen spec.Child b b)
    (h : compileElement spec fuel path id = .error e) : ¬ e.IsStructural := by
  induction fuel generalizing path id with
  | zero =>
    have := hway.length_le
    omega
  | succ fuel ih =>
    have hid : id ∉ path := fun hm => hacyclic id .refl (habove id hm)
    obtain ⟨element, he⟩ := hdefined id .refl
    have hway' : Way spec (id :: path) :=
      hway.cons hid (Entries.contains_iff_get?.mpr ⟨element, he⟩)
    have hbelow : ∀ child ∈ element.children,
        compileChild spec fuel path id child = .error e → ¬ e.IsStructural := by
      intro child hmem hchild
      have hstep : spec.Child id child := ⟨element, he, hmem⟩
      obtain ⟨element', he'⟩ := hdefined child (.single hstep)
      have habove' : ∀ a ∈ id :: path, TransGen spec.Child a child := by
        intro a ha
        rcases List.mem_cons.mp ha with rfl | ha
        · exact .single hstep
        · exact (habove a ha).tail hstep
      rw [compileChild, if_pos (Entries.contains_iff_get?.mpr ⟨element', he'⟩)] at hchild
      exact ih hway' (by rw [List.length_cons]; omega) habove'
        (fun b hb => hdefined b (.head hstep hb)) (fun b hb => hacyclic b (.head hstep hb)) hchild
    rw [compileElement_of_get? hid he] at h
    rcases hc : Component.ofName? element.component with _ | c
    · simp only [hc] at h
      cases h
      exact not_false
    simp only [hc] at h
    rcases hp : compileProps id c element.props with e' | ps
    · rw [hp] at h
      cases h
      exact not_isStructural_of_compileProps hp
    rw [hp] at h
    by_cases hslot : (!element.children.isEmpty && !c.hasSlot) = true
    · simp only [hslot, if_true] at h
      cases h
      exact not_false
    simp only [hslot] at h
    rcases hm : element.children.mapM (compileChild spec fuel path id) with e' | ws
    · rw [hm] at h
      cases h
      obtain ⟨child, hmem, hchild⟩ := exists_error_of_mapM hm
      exact hbelow child hmem hchild
    · rw [hm] at h
      cases h

/-- **A sound structure gives no error of the structure.** -/
theorem not_isStructural_of_compile
    (hdefined : ∀ b, spec.Reaches spec.root b →
      ∃ element, Entries.get? b spec.elements = some element)
    (hacyclic : ∀ b, spec.Reaches spec.root b → ¬ TransGen spec.Child b b)
    (h : spec.compile = .error e) : ¬ e.IsStructural := by
  unfold compile at h
  rw [if_pos (Entries.contains_iff_get?.mpr (hdefined spec.root .refl))] at h
  exact not_isStructural_of_compileElement (way_nil spec) (Nat.lt_succ_self _)
    (fun _ hm => (List.not_mem_nil hm).elim) hdefined hacyclic h

end PanelSpec
end LedStrip
