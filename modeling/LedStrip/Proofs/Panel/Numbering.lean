import Mathlib.Data.List.Nodup
import LedStrip.Proofs.Entries
import LedStrip.Proofs.Panel.Nodes
import LedStrip.Proofs.Panel.Structure

/-!
# Numbered nodes

A tree of nodes becomes a table of elements.  The nodes are numbered in the order in which they are
met, so the nodes of a subtree have the numbers of an unbroken range (`elementsFrom_keys`) and
children have larger numbers than their parents (`elementsFrom_children`).  Hence the table unfolds
to the tree again, and there are neither dangling children nor cycles (`ofNodeJson_unfolds`).
-/

namespace LedStrip

variable {R : Type}

namespace PanelNode

mutual

/-- The nodes of a tree, parents before their children. -/
def nodes : PanelNode R → List (PanelNode R)
  | mk component props children => mk component props children :: nodesOfAll children

def nodesOfAll : List (PanelNode R) → List (PanelNode R)
  | [] => []
  | n :: rest => nodes n ++ nodesOfAll rest

end

theorem idOf_injective : Function.Injective idOf := fun i j h => by
  have htext : i.repr = j.repr := (String.append_right_inj "n").mp h
  have hdigits : Nat.toDigits 10 i = Nat.toDigits 10 j := by
    rw [← Nat.toList_repr, htext, Nat.toList_repr]
  rw [← Nat.ofDigitChars_ten_toDigits (n := i), hdigits, Nat.ofDigitChars_ten_toDigits]

/-! ### Numbers of a subtree -/

theorem elementsFrom_mk (k : Nat) (component : String) (props : Entries (Json R))
    (children : List (PanelNode R)) :
    elementsFrom k (mk component props children) =
      ((idOf k, ⟨component, props, (listFrom (k + 1) children).1⟩) ::
        (listFrom (k + 1) children).2.1, (listFrom (k + 1) children).2.2) := by
  rw [elementsFrom]

theorem listFrom_cons (k : Nat) (n : PanelNode R) (ns : List (PanelNode R)) :
    listFrom k (n :: ns) =
      (idOf k :: (listFrom (elementsFrom k n).2 ns).1,
        (elementsFrom k n).1 ++ (listFrom (elementsFrom k n).2 ns).2.1,
        (listFrom (elementsFrom k n).2 ns).2.2) := by
  rw [listFrom]

mutual

/-- The ids of a tree whose root is number `k` are those of the numbers from `k` on. -/
theorem elementsFrom_keys (k : Nat) : ∀ n : PanelNode R,
    Entries.keys (elementsFrom k n).1 = (List.range' k n.nodes.length).map idOf ∧
      (elementsFrom k n).2 = k + n.nodes.length
  | mk component props children => by
    obtain ⟨hkeys, hnext⟩ := listFrom_keys (k + 1) children
    rw [elementsFrom_mk, nodes, List.length_cons, List.range'_succ]
    refine ⟨?_, by rw [hnext]; omega⟩
    rw [List.map_cons, ← hkeys]
    rfl

theorem listFrom_keys (k : Nat) : ∀ ns : List (PanelNode R),
    Entries.keys (listFrom k ns).2.1 = (List.range' k (nodesOfAll ns).length).map idOf ∧
      (listFrom k ns).2.2 = k + (nodesOfAll ns).length
  | [] => ⟨rfl, rfl⟩
  | n :: ns => by
    obtain ⟨hfirst, hk⟩ := elementsFrom_keys k n
    obtain ⟨hrest, hnext⟩ := listFrom_keys (elementsFrom k n).2 ns
    rw [listFrom_cons, nodesOfAll, List.length_append]
    refine ⟨?_, by rw [hnext, hk]; omega⟩
    rw [Entries.keys, List.map_append, ← Entries.keys, ← Entries.keys, hfirst, hrest, hk,
      ← List.map_append, List.range'_append_1]

end

theorem elementsFrom_nodup (k : Nat) (n : PanelNode R) :
    (Entries.keys (elementsFrom k n).1).Nodup := by
  rw [(elementsFrom_keys k n).1]
  exact List.Nodup.map idOf_injective List.nodup_range'

/-- Children have numbers of their own range. -/
theorem listFrom_ids {k : Nat} {ns : List (PanelNode R)} {id : String} (h : id ∈ (listFrom k ns).1) :
    ∃ j, id = idOf j ∧ k ≤ j ∧ j < k + (nodesOfAll ns).length := by
  induction ns generalizing k with
  | nil => exact (List.not_mem_nil h).elim
  | cons n ns ih =>
    have hpos : 0 < n.nodes.length := by
      cases n
      exact Nat.succ_pos _
    rw [listFrom_cons] at h
    rw [nodesOfAll, List.length_append]
    rcases List.mem_cons.mp h with rfl | h
    · exact ⟨k, rfl, le_rfl, by omega⟩
    · obtain ⟨j, rfl, hle, hlt⟩ := ih h
      rw [(elementsFrom_keys k n).2] at hle hlt
      exact ⟨j, rfl, by omega, by omega⟩

mutual

/-- Children come after their parents, and before what follows the tree. -/
theorem elementsFrom_children {k : Nat} {e : String × PanelElement R} : ∀ {n : PanelNode R},
    e ∈ (elementsFrom k n).1 → ∃ i, e.1 = idOf i ∧
      ∀ id ∈ e.2.children, ∃ j, id = idOf j ∧ i < j ∧ j < k + n.nodes.length
  | mk component props children, he => by
    rw [elementsFrom_mk] at he
    rw [nodes, List.length_cons]
    rcases List.mem_cons.mp he with rfl | he
    · refine ⟨k, rfl, fun id hid => ?_⟩
      obtain ⟨j, rfl, hle, hlt⟩ := listFrom_ids hid
      exact ⟨j, rfl, by omega, by omega⟩
    · obtain ⟨i, hi, hall⟩ := listFrom_children he
      refine ⟨i, hi, fun id hid => ?_⟩
      obtain ⟨j, rfl, hlt, hlt'⟩ := hall id hid
      exact ⟨j, rfl, hlt, by omega⟩

theorem listFrom_children {k : Nat} {e : String × PanelElement R} : ∀ {ns : List (PanelNode R)},
    e ∈ (listFrom k ns).2.1 → ∃ i, e.1 = idOf i ∧
      ∀ id ∈ e.2.children, ∃ j, id = idOf j ∧ i < j ∧ j < k + (nodesOfAll ns).length
  | [], he => (List.not_mem_nil he).elim
  | n :: ns, he => by
    rw [listFrom_cons] at he
    rw [nodesOfAll, List.length_append]
    rcases List.mem_append.mp he with he | he
    · obtain ⟨i, hi, hall⟩ := elementsFrom_children he
      refine ⟨i, hi, fun id hid => ?_⟩
      obtain ⟨j, rfl, hlt, hlt'⟩ := hall id hid
      exact ⟨j, rfl, hlt, by omega⟩
    · obtain ⟨i, hi, hall⟩ := listFrom_children he
      refine ⟨i, hi, fun id hid => ?_⟩
      obtain ⟨j, rfl, hlt, hlt'⟩ := hall id hid
      rw [(elementsFrom_keys k n).2] at hlt'
      exact ⟨j, rfl, hlt, by omega⟩

end

/-! ### In one pass -/

mutual

/-- Put a tree into a table in one pass: a node takes the number of elements so far for its id, and
gets its children when they have theirs. -/
def flatten : PanelNode R → Entries (PanelElement R) → String × Entries (PanelElement R)
  | mk component props children, table =>
    let id := idOf table.length
    let below := flattenAll children (Entries.insert id ⟨component, props, []⟩ table)
    (id, Entries.insert id ⟨component, props, below.1⟩ below.2)

def flattenAll :
    List (PanelNode R) → Entries (PanelElement R) → List String × Entries (PanelElement R)
  | [], table => ([], table)
  | n :: rest, table =>
    let first := flatten n table
    let others := flattenAll rest first.2
    (first.1 :: others.1, others.2)

end

/-- A table with the numbers below `k`, one element for each. -/
structure Numbered (k : Nat) (table : Entries (PanelElement R)) : Prop where
  length_eq : table.length = k
  keys_lt : ∀ key ∈ Entries.keys table, ∃ i < k, key = idOf i

theorem Numbered.notMem {k : Nat} {table : Entries (PanelElement R)} (h : Numbered k table) :
    idOf k ∉ Entries.keys table := fun hm => by
  obtain ⟨i, hi, he⟩ := h.keys_lt _ hm
  have := idOf_injective he
  omega

theorem Numbered.insert {k : Nat} {table : Entries (PanelElement R)} (h : Numbered k table)
    (e : PanelElement R) : Numbered (k + 1) (Entries.insert (idOf k) e table) := by
  have hperm := Entries.insert_perm h.notMem e
  refine ⟨by rw [hperm.length_eq, List.length_cons, h.length_eq], fun key hm => ?_⟩
  rcases List.mem_cons.mp ((hperm.map Prod.fst).mem_iff.mp hm) with rfl | hm
  · exact ⟨k, Nat.lt_succ_self k, rfl⟩
  · obtain ⟨i, hi, rfl⟩ := h.keys_lt key hm
    exact ⟨i, by omega, rfl⟩

theorem Numbered.insertAll {xs : List (String × PanelElement R)} {k : Nat}
    {table : Entries (PanelElement R)} (h : Numbered k table)
    (hxs : Entries.keys xs = (List.range' k xs.length).map idOf) :
    Numbered (k + xs.length) (Entries.insertAll xs table) := by
  induction xs generalizing k table with
  | nil => exact h
  | cons e xs ih =>
    obtain ⟨key, e⟩ := e
    rw [List.length_cons, List.range'_succ, List.map_cons] at hxs
    obtain ⟨rfl, hrest⟩ := List.cons.inj hxs
    rw [List.length_cons, show k + (xs.length + 1) = k + 1 + xs.length by omega]
    exact ih (h.insert e) hrest

theorem length_elementsFrom (k : Nat) (n : PanelNode R) :
    (elementsFrom k n).1.length = n.nodes.length := by
  have := congrArg List.length (elementsFrom_keys k n).1
  simpa [Entries.keys] using this

mutual

/-- One pass puts the elements of the tree into the table, under the numbers that come next. -/
theorem flatten_eq {k : Nat} {table : Entries (PanelElement R)} (h : Numbered k table) :
    ∀ n : PanelNode R,
      n.flatten table = (idOf k, Entries.insertAll (elementsFrom k n).1 table)
  | mk component props children => by
    have hids : idOf k ∉ Entries.keys (listFrom (k + 1) children).2.1 := fun hm => by
      rw [(listFrom_keys (k + 1) children).1] at hm
      obtain ⟨j, hj, he⟩ := List.mem_map.mp hm
      have := idOf_injective he
      have := List.mem_range'_1.mp hj
      omega
    rw [flatten, h.length_eq, flattenAll_eq (h.insert _) children, elementsFrom_mk,
      Entries.insert_insertAll hids, Entries.insert_insert]
    rfl

theorem flattenAll_eq {k : Nat} {table : Entries (PanelElement R)} (h : Numbered k table) :
    ∀ ns : List (PanelNode R),
      flattenAll ns table = ((listFrom k ns).1, Entries.insertAll (listFrom k ns).2.1 table)
  | [] => rfl
  | n :: ns => by
    obtain ⟨hkeys, hnext⟩ := elementsFrom_keys k n
    have hnumbered : Numbered (elementsFrom k n).2 (Entries.insertAll (elementsFrom k n).1 table) := by
      rw [hnext, ← length_elementsFrom k n]
      exact h.insertAll (by rw [length_elementsFrom, hkeys])
    rw [flattenAll, flatten_eq h n, flattenAll_eq hnumbered ns, listFrom_cons,
      Entries.insertAll_append]

end

/-! ### Subtrees -/

mutual

/-- The elements of a subtree are among those of the tree, under the number of its root. -/
theorem elementsFrom_subset {k j : Nat} {m : PanelNode R} : ∀ {n : PanelNode R},
    n.nodes[j]? = some m → (elementsFrom (k + j) m).1 ⊆ (elementsFrom k n).1
  | mk component props children, h => by
    rw [nodes] at h
    cases j with
    | zero =>
      cases h
      exact fun _ he => he
    | succ j =>
      rw [List.getElem?_cons_succ] at h
      rw [elementsFrom_mk, show k + (j + 1) = k + 1 + j by omega]
      exact fun _ he => List.mem_cons_of_mem _ (listFrom_subset h he)

theorem listFrom_subset {k j : Nat} {m : PanelNode R} : ∀ {ns : List (PanelNode R)},
    (nodesOfAll ns)[j]? = some m → (elementsFrom (k + j) m).1 ⊆ (listFrom k ns).2.1
  | [], h => by cases h
  | n :: ns, h => by
    rw [nodesOfAll] at h
    rw [listFrom_cons]
    by_cases hj : j < n.nodes.length
    · rw [List.getElem?_append_left hj] at h
      exact fun _ he => List.mem_append_left _ (elementsFrom_subset h he)
    · rw [List.getElem?_append_right (by omega)] at h
      have hk : (elementsFrom k n).2 + (j - n.nodes.length) = k + j := by
        rw [(elementsFrom_keys k n).2]
        omega
      have hsub := listFrom_subset (k := (elementsFrom k n).2) h
      rw [hk] at hsub
      exact fun _ he => List.mem_append_right _ (hsub he)

end

end PanelNode

/-! ### Back to the tree -/

namespace PanelSpec

open PanelNode

mutual

/-- The element `id` with all that is below it is the node. -/
inductive Shows (spec : PanelSpec R) : String → PanelNode R → Prop
  | mk {id component : String} {props : Entries (Json R)} {ids : List String}
    {children : List (PanelNode R)} :
    Entries.get? id spec.elements = some ⟨component, props, ids⟩ → ShowsAll spec ids children →
      Shows spec id (.mk component props children)

/-- The elements are the nodes, one for each and in the same order. -/
inductive ShowsAll (spec : PanelSpec R) : List String → List (PanelNode R) → Prop
  | nil : ShowsAll spec [] []
  | cons {id : String} {ids : List String} {n : PanelNode R} {ns : List (PanelNode R)} :
    Shows spec id n → ShowsAll spec ids ns → ShowsAll spec (id :: ids) (n :: ns)

end

variable {spec : PanelSpec R}

mutual

/-- An element is one node at most. -/
theorem Shows.unique : ∀ {id : String} {n n' : PanelNode R},
    spec.Shows id n → spec.Shows id n' → n = n'
  | _, _, _, .mk he hns, .mk he' hns' => by
    cases he.symm.trans he'
    rw [hns.unique hns']

theorem ShowsAll.unique : ∀ {ids : List String} {ns ns' : List (PanelNode R)},
    spec.ShowsAll ids ns → spec.ShowsAll ids ns' → ns = ns'
  | _, _, _, .nil, .nil => rfl
  | _, _, _, .cons hn hns, .cons hn' hns' => by rw [hn.unique hn', hns.unique hns']

end

mutual

/-- A table with the elements of a tree shows the tree. -/
theorem shows_of_elements {k : Nat} : ∀ {n : PanelNode R},
    (∀ e ∈ (elementsFrom k n).1, Entries.get? e.1 spec.elements = some e.2) →
      spec.Shows (idOf k) n
  | .mk component props children, h => by
    rw [elementsFrom_mk] at h
    obtain ⟨hroot, hchildren⟩ := List.forall_mem_cons.mp h
    exact .mk hroot (showsAll_of_elements hchildren)

theorem showsAll_of_elements {k : Nat} : ∀ {ns : List (PanelNode R)},
    (∀ e ∈ (listFrom k ns).2.1, Entries.get? e.1 spec.elements = some e.2) →
      spec.ShowsAll (listFrom k ns).1 ns
  | [], _ => .nil
  | n :: ns, h => by
    rw [listFrom_cons] at h ⊢
    obtain ⟨hfirst, hrest⟩ := List.forall_mem_append.mp h
    exact .cons (shows_of_elements hfirst) (showsAll_of_elements hrest)

end

mutual

/-- The widget draws the node: they have the same component, the same properties and the same
children in the same order. -/
inductive Draws : Widget R → PanelNode R → Prop
  | mk {id component : String} {c : Component} {props : Entries (Json R)}
    {widgets : List (Widget R)} {children : List (PanelNode R)} :
    Component.ofName? component = some c → DrawsAll widgets children →
      Draws (.mk id c (widgetProps props) widgets) (.mk component props children)

inductive DrawsAll : List (Widget R) → List (PanelNode R) → Prop
  | nil : DrawsAll [] []
  | cons {w : Widget R} {ws : List (Widget R)} {n : PanelNode R} {ns : List (PanelNode R)} :
    Draws w n → DrawsAll ws ns → DrawsAll (w :: ws) (n :: ns)

end

mutual

/-- Two unfoldings of an element have one shape. -/
theorem Unfolds.draws : ∀ {id : String} {w : Widget R} {n : PanelNode R},
    spec.Unfolds id w → spec.Shows id n → Draws w n
  | _, _, _, .mk he hc hws, .mk he' hns => by
    cases he.symm.trans he'
    exact .mk hc (hws.draws hns)

theorem UnfoldsAll.draws : ∀ {ids : List String} {ws : List (Widget R)} {ns : List (PanelNode R)},
    spec.UnfoldsAll ids ws → spec.ShowsAll ids ns → DrawsAll ws ns
  | _, _, _, .nil, .nil => .nil
  | _, _, _, .cons hw hws, .cons hn hns => .cons (hw.draws hn) (hws.draws hns)

end

/-! ### The table of a tree -/

theorem get?_ofNode (n : PanelNode R) (state : Json R) {e : String × PanelElement R}
    (he : e ∈ (elementsFrom 0 n).1) :
    Entries.get? e.1 (ofNode n state).elements = some e.2 := by
  show Entries.get? e.1 (Entries.ofList (elementsFrom 0 n).1) = some e.2
  rw [Entries.get?_ofList (elementsFrom_nodup 0 n)]
  exact Entries.get?_of_mem (elementsFrom_nodup 0 n) he

/-- Element `j` of the table is node `j` of the tree. -/
theorem shows_ofNode {n m : PanelNode R} {j : Nat} (h : n.nodes[j]? = some m) (state : Json R) :
    (ofNode n state).Shows (idOf j) m := by
  have hsub := elementsFrom_subset (k := 0) h
  rw [Nat.zero_add] at hsub
  exact shows_of_elements fun e he => get?_ofNode n state (hsub he)

/-- A child of an element is another element, with a larger number. -/
theorem child_ofNode {n : PanelNode R} {state : Json R} {i : Nat} {b : String}
    (h : (ofNode n state).Child (idOf i) b) :
    ∃ j, b = idOf j ∧ i < j ∧ j < n.nodes.length := by
  obtain ⟨element, he, hb⟩ := h
  have hget : Entries.get? (idOf i) (elementsFrom 0 n).1 = some element := by
    rw [← he]
    exact (Entries.get?_ofList (elementsFrom_nodup 0 n) _).symm
  obtain ⟨i', hi', hall⟩ := elementsFrom_children (Entries.mem_of_get? hget)
  obtain ⟨j, rfl, hlt, hlt'⟩ := hall b hb
  exact ⟨j, rfl, idOf_injective hi' ▸ hlt, by omega⟩

open Relation

theorem below_ofNode {n : PanelNode R} {state : Json R} {i : Nat} {b : String}
    (h : TransGen (ofNode n state).Child (idOf i) b) :
    ∃ j, b = idOf j ∧ i < j ∧ j < n.nodes.length := by
  induction h with
  | single hb => exact child_ofNode hb
  | tail _ hb ih =>
    obtain ⟨j, rfl, hij, -⟩ := ih
    obtain ⟨k, rfl, hjk, hk⟩ := child_ofNode hb
    exact ⟨k, rfl, by omega, hk⟩

/-- What is reachable from the root of the table is one of its elements. -/
theorem reaches_ofNode {n : PanelNode R} {state : Json R} {b : String}
    (h : (ofNode n state).Reaches (ofNode n state).root b) :
    ∃ j, b = idOf j ∧ j < n.nodes.length := by
  have hpos : 0 < n.nodes.length := by
    cases n
    exact Nat.succ_pos _
  rcases ReflTransGen.cases_head_iff.mp h with rfl | ⟨c, hc, hb⟩
  · exact ⟨0, rfl, hpos⟩
  · obtain ⟨j, hj, -, hlt⟩ := below_ofNode (.head' hc hb)
    exact ⟨j, hj, hlt⟩

theorem keys_ofNode (n : PanelNode R) (state : Json R) :
    (Entries.keys (ofNode n state).elements).Perm ((List.range n.nodes.length).map idOf) := by
  have hperm := (Entries.ofList_perm (elementsFrom_nodup 0 n)).map Prod.fst
  rw [List.range_eq_range', ← (elementsFrom_keys 0 n).1]
  exact hperm

theorem flatten_nil (n : PanelNode R) (state : Json R) :
    n.flatten [] = ((ofNode n state).root, (ofNode n state).elements) :=
  flatten_eq ⟨rfl, fun _ hm => (List.not_mem_nil hm).elim⟩ n

section Compile

variable [Scalar R]

/-- The structure of a numbered tree is sound. -/
theorem not_isStructural_ofNode {n : PanelNode R} {state : Json R} {e : PanelError}
    (h : (ofNode n state).compile = .error e) : ¬ e.IsStructural := by
  refine not_isStructural_of_compile (fun b hb => ?_) (fun b hb hcycle => ?_) h
  · obtain ⟨j, rfl, hj⟩ := reaches_ofNode hb
    obtain ⟨m, hm⟩ : ∃ m, n.nodes[j]? = some m := ⟨_, List.getElem?_eq_getElem hj⟩
    cases shows_ofNode hm state with
    | mk he => exact ⟨_, he⟩
  · obtain ⟨i, rfl, -⟩ := reaches_ofNode hb
    obtain ⟨j, hj, hlt, -⟩ := below_ofNode hcycle
    have := idOf_injective hj
    omega

theorem ofNodeJson_eq_ok_iff {v state : Json R} {spec : PanelSpec R} :
    ofNodeJson v state = .ok spec ↔ ∃ n, Reads v n ∧ ofNode n state = spec := by
  unfold ofNodeJson
  constructor
  · intro h
    rcases hn : PanelNode.ofJson v with e | n
    · rw [hn] at h
      cases h
    · rw [hn] at h
      cases h
      exact ⟨n, (ofJson_eq_ok_iff v n).mp hn, rfl⟩
  · rintro ⟨n, hn, rfl⟩
    rw [(ofJson_eq_ok_iff v n).mpr hn]
    rfl

end Compile

/-- **A tree as a table.**  A value is made into a description exactly if it is a node, and then:

* the description has one element for each node of the tree that the value stands for, and numbers
  them from the root on in the order in which they are met;
* element `j` unfolds to node `j`, and the root to the whole tree and to no other;
* one pass that names each node by the size of the table so far makes the same table;
* compilation finds no fault in the structure, and what it draws has the shape of the tree. -/
theorem ofNodeJson_unfolds [Scalar R] (v state : Json R) :
    ((∃ spec, ofNodeJson v state = .ok spec) ↔ IsNode v) ∧
      ∀ spec, ofNodeJson v state = .ok spec → ∃ n, Reads v n ∧
        (spec.state = state ∧ spec.root = idOf 0 ∧
          (Entries.keys spec.elements).Perm ((List.range n.nodes.length).map idOf)) ∧
        ((∀ j m, n.nodes[j]? = some m → spec.Shows (idOf j) m) ∧
          ∀ m, spec.Shows spec.root m ↔ m = n) ∧
        n.flatten [] = (spec.root, spec.elements) ∧
        (∀ e, spec.compile = .error e → ¬ e.IsStructural) ∧
        ∀ w, spec.compile = .ok w → Draws w n := by
  refine ⟨⟨fun ⟨spec, h⟩ => ?_, fun h => ?_⟩, fun spec h => ?_⟩
  · obtain ⟨n, hn, -⟩ := ofNodeJson_eq_ok_iff.mp h
    exact hn.isNode
  · obtain ⟨n, hn⟩ := isNode_iff.mp h
    exact ⟨_, ofNodeJson_eq_ok_iff.mpr ⟨n, hn, rfl⟩⟩
  · obtain ⟨n, hn, rfl⟩ := ofNodeJson_eq_ok_iff.mp h
    have hroot : (ofNode n state).Shows (ofNode n state).root n :=
      shows_ofNode (j := 0) (by cases n; rfl) state
    refine ⟨n, hn, ⟨rfl, rfl, keys_ofNode n state⟩,
      ⟨fun j m hm => shows_ofNode hm state, fun m => ⟨fun hm => hm.unique hroot, ?_⟩⟩,
      flatten_nil n state, fun e he => not_isStructural_ofNode he,
      fun w hw => (compile_sound hw).2.draws hroot⟩
    rintro rfl
    exact hroot

/-- In a stack of a card with a text and another text, the other text is element three: the text in
the card comes before it. -/
theorem text_after_card_is_n3 :
    let text (s : String) : PanelNode Rat := .mk "Text" [("text", .str s)] []
    let tree : PanelNode Rat := .mk "Stack" [] [.mk "Card" [] [text "a"], text "b"]
    let value (s : String) : Json Rat := .obj [("props", .obj [("text", .str s)]), ("type", .str "Text")]
    let v : Json Rat := .obj
      [("children", .arr
          [.obj [("children", .arr [value "a"]), ("props", .null), ("type", .str "Card")], value "b"]),
       ("type", .str "Stack")]
    ∃ spec, ofNodeJson v .null = .ok spec ∧ spec.Shows "n0" tree ∧ spec.Shows "n3" (text "b") := by
  intro text tree value v
  have hread : Reads v tree := (ofJson_eq_ok_iff v tree).mp rfl
  obtain ⟨⟨-, hmade⟩, hspec⟩ := ofNodeJson_unfolds v .null
  obtain ⟨spec, h⟩ := hmade hread.isNode
  obtain ⟨n, hn, -, ⟨hall, -⟩, -⟩ := hspec spec h
  have hok : PanelNode.ofJson v = .ok n := (ofJson_eq_ok_iff v n).mpr hn
  obtain rfl : n = tree := Except.ok.inj (hok.symm.trans rfl)
  exact ⟨spec, h, hall 0 _ rfl, hall 3 _ rfl⟩

end PanelSpec
end LedStrip
