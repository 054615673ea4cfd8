import LedStrip.Panel.Spec

/-!
# Nodes as values

`PanelNode.Reads` says which node a value stands for: its type is a text, and properties or children
that are missing or `null` are none.  Reading finds that node (`ofJson_eq_ok_iff`), and `IsNode` says
of which values there is one.
-/

namespace LedStrip

namespace PanelNode

variable {R : Type}

/-- Properties as a node gives them: an object, or nothing. -/
inductive PropsRead : Option (Json R) → Entries (Json R) → Prop
  | absent : PropsRead none []
  | null : PropsRead (some .null) []
  | obj (props : Entries (Json R)) : PropsRead (some (.obj props)) props

/-- Children as a node gives them: an array, or nothing. -/
inductive ItemsRead : Option (Json R) → List (Json R) → Prop
  | absent : ItemsRead none []
  | null : ItemsRead (some .null) []
  | arr (items : List (Json R)) : ItemsRead (some (.arr items)) items

/-- An object with a type that is a text, with properties and with children that are nodes. -/
inductive IsNode : Json R → Prop
  | mk {members : Entries (Json R)} {component : String} {props : Entries (Json R)}
    {items : List (Json R)} :
    Entries.get? "type" members = some (.str component) →
    PropsRead (Entries.get? "props" members) props →
    ItemsRead (Entries.get? "children" members) items → (∀ v ∈ items, IsNode v) →
      IsNode (.obj members)

mutual

/-- The value stands for the node. -/
inductive Reads : Json R → PanelNode R → Prop
  | mk {members : Entries (Json R)} {component : String} {props : Entries (Json R)}
    {items : List (Json R)} {children : List (PanelNode R)} :
    Entries.get? "type" members = some (.str component) →
    PropsRead (Entries.get? "props" members) props →
    ItemsRead (Entries.get? "children" members) items → ReadsAll items children →
      Reads (.obj members) (.mk component props children)

/-- The values stand for the nodes, one for each and in the same order. -/
inductive ReadsAll : List (Json R) → List (PanelNode R) → Prop
  | nil : ReadsAll [] []
  | cons {v : Json R} {vs : List (Json R)} {n : PanelNode R} {ns : List (PanelNode R)} :
    Reads v n → ReadsAll vs ns → ReadsAll (v :: vs) (n :: ns)

end

theorem eq_str_of_asString? {given : Option (Json R)} {component : String}
    (h : given.bind Json.asString? = some component) : given = some (.str component) := by
  obtain ⟨v, rfl, hv⟩ := Option.bind_eq_some_iff.mp h
  cases v with
  | str s => cases hv; rfl
  | _ => cases hv

section Reading

variable [Scalar R]

theorem propsOf_eq_ok_iff {component : String} {given : Option (Json R)}
    {props : Entries (Json R)} : propsOf component given = .ok props ↔ PropsRead given props := by
  constructor
  · intro h
    unfold propsOf at h
    split at h
    · cases h; exact .absent
    · cases h; exact .null
    · cases h; exact .obj _
    · cases h
  · rintro (_ | _ | _) <;> rfl

mutual

/-- **A value is read as the node that it stands for**, and as nothing else. -/
theorem ofJson_eq_ok_iff : ∀ (v : Json R) (n : PanelNode R), ofJson v = .ok n ↔ Reads v n
  | .obj members, n => by
    rw [ofJson]
    constructor
    · intro h
      rcases ht : (Entries.get? "type" members).bind Json.asString? with _ | component
      · rw [ht] at h
        cases h
      rcases hp : propsOf component (Entries.get? "props" members) with _ | props
      · simp only [ht, hp] at h
        cases h
      rcases hc : childrenIn component members with _ | children
      · simp only [ht, hp, hc] at h
        cases h
      simp only [ht, hp, hc] at h
      cases h
      obtain ⟨items, hitems, hall⟩ := (childrenIn_eq_ok_iff component members children).mp hc
      exact .mk (eq_str_of_asString? ht) (propsOf_eq_ok_iff.mp hp) hitems hall
    · intro h
      cases h with
      | @mk _ component props items children ht hp hitems hall =>
        have hc := (childrenIn_eq_ok_iff component members children).mpr ⟨items, hitems, hall⟩
        rw [ht]
        simp only [Option.bind_some, Json.asString?, propsOf_eq_ok_iff.mpr hp, hc]
        rfl
  | .null, n => ⟨nofun, nofun⟩
  | .bool _, n => ⟨nofun, nofun⟩
  | .int _, n => ⟨nofun, nofun⟩
  | .float _, n => ⟨nofun, nofun⟩
  | .str _, n => ⟨nofun, nofun⟩
  | .arr _, n => ⟨nofun, nofun⟩

theorem childrenIn_eq_ok_iff (component : String) :
    ∀ (members : List (String × Json R)) (ns : List (PanelNode R)),
      childrenIn component members = .ok ns ↔
        ∃ items, ItemsRead (Entries.get? "children" members) items ∧ ReadsAll items ns
  | [], ns => by
    constructor
    · intro h
      cases h
      exact ⟨[], .absent, .nil⟩
    · rintro ⟨_, ⟨⟩, ⟨⟩⟩
      rfl
  | (k, v) :: rest, ns => by
    rw [childrenIn, Entries.get?]
    split
    · exact childrenOf_eq_ok_iff component v ns
    · exact childrenIn_eq_ok_iff component rest ns

theorem childrenOf_eq_ok_iff (component : String) :
    ∀ (v : Json R) (ns : List (PanelNode R)),
      childrenOf component v = .ok ns ↔
        ∃ items, ItemsRead (some v) items ∧ ReadsAll items ns
  | .null, ns => by
    constructor
    · intro h
      cases h
      exact ⟨[], .null, .nil⟩
    · rintro ⟨_, ⟨⟩, ⟨⟩⟩
      rfl
  | .arr items, ns => by
    rw [childrenOf, listOfJson_eq_ok_iff items ns]
    constructor
    · exact fun h => ⟨items, .arr items, h⟩
    · rintro ⟨_, ⟨⟩, h⟩
      exact h
  | .bool _, ns => ⟨nofun, nofun⟩
  | .int _, ns => ⟨nofun, nofun⟩
  | .float _, ns => ⟨nofun, nofun⟩
  | .str _, ns => ⟨nofun, nofun⟩
  | .obj _, ns => ⟨nofun, nofun⟩

theorem listOfJson_eq_ok_iff :
    ∀ (vs : List (Json R)) (ns : List (PanelNode R)), listOfJson vs = .ok ns ↔ ReadsAll vs ns
  | [], ns => by
    constructor
    · intro h
      cases h
      exact .nil
    · rintro ⟨⟩
      rfl
  | v :: vs, ns => by
    rw [listOfJson]
    constructor
    · intro h
      rcases hv : ofJson v with _ | n
      · rw [hv] at h
        cases h
      rcases hvs : listOfJson vs with _ | ns'
      · rw [hv, hvs] at h
        cases h
      rw [hv, hvs] at h
      cases h
      exact .cons ((ofJson_eq_ok_iff v n).mp hv) ((listOfJson_eq_ok_iff vs ns').mp hvs)
    · rintro (_ | ⟨hv, hvs⟩)
      rw [(ofJson_eq_ok_iff v _).mpr hv, (listOfJson_eq_ok_iff vs _).mpr hvs]
      rfl

end

end Reading

mutual

theorem Reads.isNode {v : Json R} {n : PanelNode R} : Reads v n → IsNode v
  | .mk ht hp hitems hall => .mk ht hp hitems hall.isNode

theorem ReadsAll.isNode {vs : List (Json R)} {ns : List (PanelNode R)} :
    ReadsAll vs ns → ∀ v ∈ vs, IsNode v
  | .nil, _, hv => (List.not_mem_nil hv).elim
  | .cons hn hns, v, hv => by
    rcases List.mem_cons.mp hv with rfl | hv
    · exact hn.isNode
    · exact hns.isNode v hv

end

theorem readsAll_of_forall {vs : List (Json R)} (h : ∀ v ∈ vs, ∃ n, Reads v n) :
    ∃ ns, ReadsAll vs ns := by
  induction vs with
  | nil => exact ⟨[], .nil⟩
  | cons v vs ih =>
    obtain ⟨hv, hvs⟩ := List.forall_mem_cons.mp h
    obtain ⟨n, hn⟩ := hv
    obtain ⟨ns, hns⟩ := ih hvs
    exact ⟨n :: ns, .cons hn hns⟩

/-- The values that stand for nodes. -/
theorem isNode_iff {v : Json R} : IsNode v ↔ ∃ n, Reads v n := by
  refine ⟨fun h => ?_, fun ⟨_, h⟩ => h.isNode⟩
  induction h with
  | mk ht hp hitems _ ih =>
    obtain ⟨children, hall⟩ := readsAll_of_forall ih
    exact ⟨_, .mk ht hp hitems hall⟩

end PanelNode
end LedStrip
