import Mathlib.Data.List.Forall2
import Mathlib.Data.List.Perm.Subperm
import Mathlib.Logic.Relation
import LedStrip.Proofs.Panel.Props

/-!
# Compilation of panels

`PanelSpec.WellFormed` says which descriptions compile and `PanelSpec.Unfolds` what their trees are,
both without fuel and without the way from the root that `compileElement` keeps.  `compile_unfolds`
says that compilation agrees with the two.

The elements on a way are defined and distinct, so `Way` bounds its length by the table.  Both the
bound on the fuel and the search for cycles rest on that.
-/

namespace LedStrip.PanelSpec

open Relation

variable {R : Type}

/-- The element `b` is a child of the element `a`. -/
def Child (spec : PanelSpec R) (a b : String) : Prop :=
  ∃ element, Entries.get? a spec.elements = some element ∧ b ∈ element.children

/-- The element `b` is reachable from the element `a`. -/
def Reaches (spec : PanelSpec R) : String → String → Prop := ReflTransGen spec.Child

/-- An element whose component, children and properties fit together. -/
def Fits (element : PanelElement R) : Prop :=
  ∃ c, Component.ofName? element.component = some c ∧
    (element.children ≠ [] → c = .stack ∨ c = .card) ∧
    c.Accepts element.props

/-- A description that compiles. -/
structure WellFormed (spec : PanelSpec R) : Prop where
  root : ∃ element, Entries.get? spec.root spec.elements = some element
  defined : ∀ id, spec.Reaches spec.root id →
    ∃ element, Entries.get? id spec.elements = some element
  acyclic : ∀ id, spec.Reaches spec.root id → ¬ TransGen spec.Child id id
  fits : ∀ id element, spec.Reaches spec.root id → Entries.get? id spec.elements = some element →
    Fits element

mutual

/-- The widget is the element `id` with all that is below it. -/
inductive Unfolds (spec : PanelSpec R) : String → Widget R → Prop
  | mk {id : String} {element : PanelElement R} {c : Component} {widgets : List (Widget R)} :
    Entries.get? id spec.elements = some element → Component.ofName? element.component = some c →
    UnfoldsAll spec element.children widgets →
      Unfolds spec id (.mk id c (widgetProps element.props) widgets)

/-- The widgets are those of the elements, one for each and in the same order. -/
inductive UnfoldsAll (spec : PanelSpec R) : List String → List (Widget R) → Prop
  | nil : UnfoldsAll spec [] []
  | cons {id : String} {ids : List String} {w : Widget R} {ws : List (Widget R)} :
    Unfolds spec id w → UnfoldsAll spec ids ws → UnfoldsAll spec (id :: ids) (w :: ws)

end

mutual

/-- There is at most one tree. -/
theorem Unfolds.unique {spec : PanelSpec R} :
    ∀ {id : String} {w w' : Widget R}, spec.Unfolds id w → spec.Unfolds id w' → w = w'
  | _, _, _, .mk he hc hws, .mk he' hc' hws' => by
    cases he.symm.trans he'
    cases hc.symm.trans hc'
    rw [hws.unique hws']

theorem UnfoldsAll.unique {spec : PanelSpec R} :
    ∀ {ids : List String} {ws ws' : List (Widget R)},
      spec.UnfoldsAll ids ws → spec.UnfoldsAll ids ws' → ws = ws'
  | _, _, _, .nil, .nil => rfl
  | _, _, _, .cons hw hws, .cons hw' hws' => by rw [hw.unique hw', hws.unique hws']

end

theorem UnfoldsAll.of_forall₂ {spec : PanelSpec R} {ids : List String} {ws : List (Widget R)}
    (h : List.Forall₂ spec.Unfolds ids ws) : spec.UnfoldsAll ids ws := by
  induction h with
  | nil => exact .nil
  | cons hw _ ih => exact .cons hw ih

theorem hasSlot_iff {c : Component} : c.hasSlot = true ↔ c = .stack ∨ c = .card := by
  cases c <;> decide

/-! ### Ways -/

/-- A way through a table: distinct ids that it defines. -/
structure Way (spec : PanelSpec R) (path : List String) : Prop where
  nodup : path.Nodup
  defined : ∀ id ∈ path, Entries.contains id spec.elements = true

variable {spec : PanelSpec R} {path : List String} {id : String}

theorem way_nil (spec : PanelSpec R) : Way spec [] :=
  ⟨List.nodup_nil, fun _ h => (List.not_mem_nil h).elim⟩

theorem Way.cons (h : Way spec path) (hid : id ∉ path)
    (hd : Entries.contains id spec.elements = true) : Way spec (id :: path) := by
  refine ⟨List.nodup_cons.mpr ⟨hid, h.nodup⟩, fun id' hm => ?_⟩
  rcases List.mem_cons.mp hm with rfl | hm
  · exact hd
  · exact h.defined id' hm

/-- A way is no longer than the table. -/
theorem Way.length_le (h : Way spec path) : path.length ≤ spec.elements.length := by
  have hsub : path ⊆ spec.elements.map Prod.fst := by
    intro id hm
    obtain ⟨element, he⟩ := Entries.contains_iff.mp (h.defined id hm)
    exact List.mem_map.mpr ⟨_, he, rfl⟩
  have := (h.nodup.subperm hsub).length_le
  rwa [List.length_map] at this

/-! ### Lists of results -/

section Lists

variable {α β ε : Type}

theorem mapM_eq_ok_iff {f : α → Except ε β} {xs : List α} {ys : List β} :
    xs.mapM f = .ok ys ↔ List.Forall₂ (fun x y => f x = .ok y) xs ys := by
  induction xs generalizing ys with
  | nil =>
    rw [List.mapM_nil, List.forall₂_nil_left_iff]
    exact ⟨fun h => by cases h; rfl, fun h => by rw [h]; rfl⟩
  | cons x xs ih =>
    rw [List.mapM_cons, List.forall₂_cons_left_iff]
    constructor
    · intro h
      rcases hx : f x with _ | y
      · rw [hx] at h
        cases h
      rcases hxs : xs.mapM f with _ | ys'
      · rw [hx, hxs] at h
        cases h
      rw [hx, hxs] at h
      cases h
      exact ⟨y, ys', rfl, ih.mp hxs, rfl⟩
    · rintro ⟨y, ys', hx, hxs, rfl⟩
      rw [hx, ih.mpr hxs]
      rfl

theorem mapM_congr {f g : α → Except ε β} {xs : List α} (h : ∀ x ∈ xs, f x = g x) :
    xs.mapM f = xs.mapM g := by
  induction xs with
  | nil => rfl
  | cons x xs ih =>
    have hxs : xs.mapM f = xs.mapM g := ih fun y hy => h y (List.mem_cons_of_mem _ hy)
    rw [List.mapM_cons, List.mapM_cons, h x List.mem_cons_self, hxs]

theorem exists_forall₂_iff {r : α → β → Prop} {xs : List α} :
    (∃ ys, List.Forall₂ r xs ys) ↔ ∀ x ∈ xs, ∃ y, r x y := by
  induction xs with
  | nil => exact ⟨fun _ _ h => (List.not_mem_nil h).elim, fun _ => ⟨[], .nil⟩⟩
  | cons x xs ih =>
    rw [List.forall_mem_cons, ← ih]
    constructor
    · rintro ⟨_, _ | ⟨hx, hxs⟩⟩
      exact ⟨⟨_, hx⟩, _, hxs⟩
    · rintro ⟨⟨y, hx⟩, ys, hxs⟩
      exact ⟨y :: ys, .cons hx hxs⟩

end Lists

/-! ### One element -/

section Element

variable [Scalar R]

/-- What compilation makes of one child. -/
def compileChild (spec : PanelSpec R) (fuel : Nat) (path : List String) (id child : String) :
    Except PanelError (Widget R) :=
  if Entries.contains child spec.elements then compileElement spec fuel (id :: path) child
  else .error (.danglingChild id child)

theorem compileElement_of_mem {fuel : Nat} (h : id ∈ path) :
    compileElement spec (fuel + 1) path id = .error (.cycle id) := by
  rw [compileElement, if_pos h]

theorem compileElement_of_get? {fuel : Nat} {element : PanelElement R} (h : id ∉ path)
    (he : Entries.get? id spec.elements = some element) :
    compileElement spec (fuel + 1) path id =
      match Component.ofName? element.component with
      | none => .error (.unknownComponent id element.component)
      | some component => do
        let props ← compileProps id component element.props
        if !element.children.isEmpty && !component.hasSlot then
          throw (.unexpectedChildren id component)
        let children ← element.children.mapM (compileChild spec fuel path id)
        return .mk id component props children := by
  rw [compileElement, if_neg h, he]
  rfl

theorem compileElement_of_none {fuel : Nat} (h : id ∉ path)
    (he : Entries.get? id spec.elements = none) :
    compileElement spec (fuel + 1) path id = .error (.missingRoot id) := by
  rw [compileElement, if_neg h, he]

theorem compileChild_eq_ok_iff {fuel : Nat} {child : String} {w : Widget R} :
    compileChild spec fuel path id child = .ok w ↔
      Entries.contains child spec.elements = true ∧
        compileElement spec fuel (id :: path) child = .ok w := by
  unfold compileChild
  by_cases hc : Entries.contains child spec.elements = true
  · rw [if_pos hc]
    exact ⟨fun h => ⟨hc, h⟩, fun h => h.2⟩
  · rw [if_neg hc]
    constructor
    · intro h
      cases h
    · exact fun h => absurd h.1 hc

/-- **What an element that compiles is like**: it is not on the way, fits, and all of its children
compile. -/
theorem compileElement_inv {fuel : Nat} {w : Widget R}
    (h : compileElement spec (fuel + 1) path id = .ok w) :
    id ∉ path ∧ ∃ element c ws, Entries.get? id spec.elements = some element ∧
      Component.ofName? element.component = some c ∧ (element.children ≠ [] → c.hasSlot = true) ∧
      c.Accepts element.props ∧
      List.Forall₂ (fun child w => compileChild spec fuel path id child = .ok w)
        element.children ws ∧
      w = .mk id c (widgetProps element.props) ws := by
  by_cases hid : id ∈ path
  · rw [compileElement_of_mem hid] at h
    cases h
  refine ⟨hid, ?_⟩
  rcases he : Entries.get? id spec.elements with _ | element
  · rw [compileElement_of_none hid he] at h
    cases h
  rw [compileElement_of_get? hid he] at h
  rcases hc : Component.ofName? element.component with _ | c
  · simp only [hc] at h
    cases h
  simp only [hc] at h
  rcases hp : compileProps id c element.props with _ | ps
  · rw [hp] at h
    cases h
  rw [hp] at h
  by_cases hslot : (!element.children.isEmpty && !c.hasSlot) = true
  · simp only [hslot, if_true] at h
    cases h
  simp only [hslot] at h
  rcases hm : element.children.mapM (compileChild spec fuel path id) with _ | ws
  · rw [hm] at h
    cases h
  rw [hm] at h
  cases h
  obtain ⟨haccepts, rfl⟩ := compileProps_eq_ok_iff.mp hp
  refine ⟨element, c, ws, rfl, hc, fun hne => ?_, haccepts, mapM_eq_ok_iff.mp hm, rfl⟩
  simpa [hne] using hslot

/-- An element off the way that fits compiles if its children do. -/
theorem compileElement_of_fits {fuel : Nat} {element : PanelElement R} {ws : List (Widget R)}
    (hid : id ∉ path) (he : Entries.get? id spec.elements = some element) (hfits : Fits element)
    (hws : List.Forall₂ (fun child w => compileChild spec fuel path id child = .ok w)
      element.children ws) :
    ∃ w, compileElement spec (fuel + 1) path id = .ok w := by
  obtain ⟨c, hc, hslot, haccepts⟩ := hfits
  have hp : compileProps id c element.props = .ok _ := compileProps_eq_ok_iff.mpr ⟨haccepts, rfl⟩
  have hslot' : (!element.children.isEmpty && !c.hasSlot) = false := by
    rcases hchildren : element.children with _ | ⟨child, rest⟩
    · rfl
    · rw [hasSlot_iff.mpr (hslot (by rw [hchildren]; nofun))]
      rfl
  refine ⟨.mk id c (widgetProps element.props) ws, ?_⟩
  rw [compileElement_of_get? hid he]
  simp only [hc, hp, hslot', mapM_eq_ok_iff.mpr hws]
  rfl

end Element

/-! ### From the root -/

section Root

variable [Scalar R]

/-- **Soundness.**  An element that compiles unfolds to its widget; what is reachable from it fits,
lies off the way and on no cycle. -/
theorem unfolds_of_compileElement {fuel : Nat} {w : Widget R}
    (h : compileElement spec fuel path id = .ok w) :
    spec.Unfolds id w ∧ ∀ b, spec.Reaches id b →
      (∃ element, Entries.get? b spec.elements = some element ∧ Fits element) ∧ b ∉ path ∧
        ¬ TransGen spec.Child b b := by
  induction fuel generalizing path id w with
  | zero => cases h
  | succ fuel ih =>
    obtain ⟨hid, element, c, ws, he, hc, hslot, haccepts, hws, rfl⟩ := compileElement_inv h
    have hunfolds : List.Forall₂ spec.Unfolds element.children ws :=
      hws.imp fun child w hw => (ih (compileChild_eq_ok_iff.mp hw).2).1
    have hbelow : ∀ child, spec.Child id child → ∀ b, spec.Reaches child b →
        (∃ element, Entries.get? b spec.elements = some element ∧ Fits element) ∧ b ∉ id :: path ∧
          ¬ TransGen spec.Child b b := by
      rintro child ⟨element', he', hmem⟩
      cases he.symm.trans he'
      obtain ⟨w, hw⟩ := exists_forall₂_iff.mp ⟨ws, hws⟩ child hmem
      exact (ih (compileChild_eq_ok_iff.mp hw).2).2
    refine ⟨.mk he hc (.of_forall₂ hunfolds), fun b hb => ?_⟩
    rcases ReflTransGen.cases_head hb with rfl | ⟨child, hchild, hb⟩
    · refine ⟨⟨element, he, c, hc, fun hne => hasSlot_iff.mp (hslot hne), haccepts⟩, hid, ?_⟩
      intro hcycle
      -- a cycle comes back to the element from one of its children
      obtain ⟨child, hchild, hback⟩ := TransGen.head'_iff.mp hcycle
      exact (hbelow child hchild _ hback).2.1 List.mem_cons_self
    · obtain ⟨hfits, hnot, hacyclic⟩ := hbelow child hchild b hb
      exact ⟨hfits, fun hm => hnot (List.mem_cons_of_mem _ hm), hacyclic⟩

/-- **Completeness.**  With enough fuel, an element compiles if all that is reachable from it fits
and lies on no cycle. -/
theorem compileElement_complete {fuel : Nat} (hway : Way spec path)
    (hfuel : spec.elements.length < fuel + path.length)
    (habove : ∀ a ∈ path, TransGen spec.Child a id)
    (hfits : ∀ b, spec.Reaches id b →
      ∃ element, Entries.get? b spec.elements = some element ∧ Fits element)
    (hacyclic : ∀ b, spec.Reaches id b → ¬ TransGen spec.Child b b) :
    ∃ w, compileElement spec fuel path id = .ok w := by
  induction fuel generalizing path id with
  | zero =>
    have := hway.length_le
    omega
  | succ fuel ih =>
    -- what is on the way lies above the element, so to meet it again would be a cycle
    have hid : id ∉ path := fun hm => hacyclic id .refl (habove id hm)
    obtain ⟨element, he, hfit⟩ := hfits id .refl
    have hway' : Way spec (id :: path) :=
      hway.cons hid (Entries.contains_iff_get?.mpr ⟨element, he⟩)
    have hchildren : ∀ child ∈ element.children,
        ∃ w, compileChild spec fuel path id child = .ok w := by
      intro child hmem
      have hchild : spec.Child id child := ⟨element, he, hmem⟩
      obtain ⟨element', he', -⟩ := hfits child (.single hchild)
      have habove' : ∀ a ∈ id :: path, TransGen spec.Child a child := by
        intro a ha
        rcases List.mem_cons.mp ha with rfl | ha
        · exact .single hchild
        · exact (habove a ha).tail hchild
      obtain ⟨w, hw⟩ := ih hway' (by rw [List.length_cons]; omega) habove'
        (fun b hb => hfits b (.head hchild hb)) (fun b hb => hacyclic b (.head hchild hb))
      exact ⟨w, compileChild_eq_ok_iff.mpr ⟨Entries.contains_iff_get?.mpr ⟨element', he'⟩, hw⟩⟩
    obtain ⟨ws, hws⟩ := exists_forall₂_iff.mpr hchildren
    exact compileElement_of_fits hid he hfit hws

/-- **Only what is reachable matters**, and of the fuel only that there is enough. -/
theorem compileElement_congr {spec' : PanelSpec R} {fuel fuel' : Nat} (hway : Way spec path)
    (hway' : Way spec' path) (hfuel : spec.elements.length < fuel + path.length)
    (hfuel' : spec'.elements.length < fuel' + path.length)
    (hagree : ∀ b, spec.Reaches id b →
      Entries.get? b spec'.elements = Entries.get? b spec.elements) :
    compileElement spec' fuel' path id = compileElement spec fuel path id := by
  induction fuel generalizing fuel' path id with
  | zero =>
    have := hway.length_le
    omega
  | succ fuel ih =>
    -- the way grows as the fuels shrink, so both stay enough
    have := hway'.length_le
    obtain ⟨n, rfl⟩ : ∃ n, fuel' = n + 1 := ⟨fuel' - 1, by omega⟩
    have hget := hagree id .refl
    by_cases hid : id ∈ path
    · rw [compileElement_of_mem hid, compileElement_of_mem hid]
    rcases he : Entries.get? id spec.elements with _ | element
    · rw [compileElement_of_none hid he, compileElement_of_none hid (hget.trans he)]
    have hd : Entries.contains id spec.elements = true :=
      Entries.contains_iff_get?.mpr ⟨element, he⟩
    have hd' : Entries.contains id spec'.elements = true :=
      Entries.contains_iff_get?.mpr ⟨element, hget.trans he⟩
    have hchildren : ∀ child ∈ element.children,
        compileChild spec' n path id child = compileChild spec fuel path id child := by
      intro child hmem
      have hchild : spec.Child id child := ⟨element, he, hmem⟩
      unfold compileChild Entries.contains
      rw [hagree child (.single hchild), ih (hway.cons hid hd) (hway'.cons hid hd')
        (by rw [List.length_cons]; omega) (by rw [List.length_cons]; omega)
        fun b hb => hagree b (.head hchild hb)]
    rw [compileElement_of_get? hid he, compileElement_of_get? hid (hget.trans he),
      mapM_congr hchildren]

theorem compile_complete (h : spec.WellFormed) : ∃ w, spec.compile = .ok w := by
  unfold compile
  rw [if_pos (Entries.contains_iff_get?.mpr h.root)]
  exact compileElement_complete (way_nil spec) (Nat.lt_succ_self _)
    (fun _ hm => (List.not_mem_nil hm).elim)
    (fun b hb => (h.defined b hb).imp fun element he => ⟨he, h.fits b element hb he⟩) h.acyclic

theorem compile_sound {w : Widget R} (h : spec.compile = .ok w) :
    spec.WellFormed ∧ spec.Unfolds spec.root w := by
  unfold compile at h
  by_cases hroot : Entries.contains spec.root spec.elements = true
  · rw [if_pos hroot] at h
    obtain ⟨hunfolds, hall⟩ := unfolds_of_compileElement h
    refine ⟨⟨Entries.contains_iff_get?.mp hroot, fun id hid => ?_, fun id hid => (hall id hid).2.2,
      fun id element hid he => ?_⟩, hunfolds⟩
    · obtain ⟨element, he, -⟩ := (hall id hid).1
      exact ⟨element, he⟩
    · obtain ⟨element', he', hfits⟩ := (hall id hid).1
      cases he.symm.trans he'
      exact hfits
  · rw [if_neg hroot] at h
    cases h

end Root

/-- **Compilation unfolds a description from its root.**

* It ends: more fuel than it has makes no difference.
* It succeeds on well-formed descriptions and no others, and the tree is the one that the
  description unfolds to.
* Elements that are not reachable from the root play no part, not even in errors. -/
theorem compile_unfolds [Scalar R] (spec : PanelSpec R) :
    (∀ fuel, spec.elements.length < fuel →
        compileElement spec fuel [] spec.root =
          compileElement spec (spec.elements.length + 1) [] spec.root) ∧
      ((∃ w, spec.compile = .ok w) ↔ spec.WellFormed) ∧
      (∀ w, spec.compile = .ok w ↔ spec.WellFormed ∧ spec.Unfolds spec.root w) ∧
      ∀ spec' : PanelSpec R, spec'.root = spec.root →
        (∀ id, spec.Reaches spec.root id →
          Entries.get? id spec'.elements = Entries.get? id spec.elements) →
        spec'.compile = spec.compile := by
  refine ⟨fun fuel hfuel => ?_, ⟨fun ⟨w, hw⟩ => (compile_sound hw).1, compile_complete⟩,
    fun w => ⟨compile_sound, fun ⟨hwf, hunfolds⟩ => ?_⟩, fun spec' hroot hagree => ?_⟩
  · exact compileElement_congr (way_nil spec) (way_nil spec) (Nat.lt_succ_self _) hfuel
      fun _ _ => rfl
  · obtain ⟨w', hw'⟩ := compile_complete hwf
    rw [hw', (compile_sound hw').2.unique hunfolds]
  · unfold compile
    rw [hroot]
    unfold Entries.contains
    rw [hagree spec.root .refl, compileElement_congr (way_nil spec) (way_nil spec')
      (Nat.lt_succ_self _) (Nat.lt_succ_self _) hagree]

/-- A text that stands twice under a stack appears twice, and an element that nothing refers to may
be anything. -/
theorem shared_child_unfolds_twice :
    let spec : PanelSpec Rat :=
      { root := "a", state := .null,
        elements :=
          [("a", { component := "Stack", children := ["b", "b"] }),
           ("b", { component := "Text",
                   props := [("text", .obj [(bindKey, .str "/label")]), ("variant", .null)] }),
           ("c", { component := "Button", children := ["c"] })] }
    let text : Widget Rat := .mk "b" .text [("text", .bound "/label")] []
    spec.WellFormed ∧ spec.Unfolds "a" (.mk "a" .stack [] [text, text]) :=
  ((compile_unfolds _).2.2.1 _).mp rfl

end LedStrip.PanelSpec
