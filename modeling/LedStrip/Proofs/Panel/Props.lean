import LedStrip.Panel.Widget
import LedStrip.Proofs.Text.Pieces

/-!
# Properties of widgets

What the properties of an element have to be (`Component.Accepts`) and what a widget makes of them
(`widgetProps`), without the order in which they are checked.  `compileProps_eq_ok_iff` says that
the checks come to that.
-/

namespace LedStrip

variable {R : Type}

/-- The literals of a kind. -/
def PropKind.Admits : PropKind → Json R → Prop
  | .number, v => (∃ n, v = .int n) ∨ ∃ x, v = .float x
  | .string, v => ∃ s, v = .str s
  | .oneOf choices, v => ∃ s ∈ choices, v = .str s

/-- What a property may be: a binding to a rooted path and nothing else, `null` if it is optional,
or a literal of its kind. -/
def PropSchema.Admits (schema : PropSchema) (v : Json R) : Prop :=
  (∃ path, v = .obj [(bindKey, .str path)] ∧ path.toList.head? = some '/') ∨
    (v = .null ∧ schema.required = false) ∨ schema.kind.Admits v

/-- A component has a property of this name, and the value is one that it may be. -/
def Component.Declares (c : Component) (name : String) (v : Json R) : Prop :=
  ∃ schema ∈ c.props, schema.name = name ∧ schema.Admits v

/-- What the properties of an element with this component may be. -/
structure Component.Accepts (c : Component) (raw : Entries (Json R)) : Prop where
  declared : ∀ name v, (name, v) ∈ raw → c.Declares name v
  required : ∀ schema ∈ c.props, schema.required = true → ∃ v, (schema.name, v) ∈ raw

/-- What a widget makes of a property: nothing of `null`, a binding of an object with the marking
member alone, and itself of anything else. -/
def PropValue.ofProp? : Json R → Option (PropValue R)
  | .null => none
  | .obj [(key, .str path)] =>
    some (if key = bindKey then bound path else literal (.obj [(key, .str path)]))
  | v => some (literal v)

def widgetProps (raw : Entries (Json R)) : Entries (PropValue R) :=
  raw.filterMap fun e => (PropValue.ofProp? e.2).map fun p => (e.1, p)

/-! ### Lookups -/

theorem Entries.contains_iff {α : Type} {key : String} {m : Entries α} :
    Entries.contains key m = true ↔ ∃ v, (key, v) ∈ m := by
  induction m with
  | nil => simp [contains, get?]
  | cons e rest ih =>
    obtain ⟨k, v⟩ := e
    rw [contains] at ih ⊢
    by_cases hk : k = key
    · subst hk
      exact ⟨fun _ => ⟨v, List.mem_cons_self⟩, fun _ => by rw [get?, if_pos rfl]; rfl⟩
    · rw [get?, if_neg hk, ih]
      constructor
      · rintro ⟨u, hu⟩
        exact ⟨u, List.mem_cons_of_mem _ hu⟩
      · rintro ⟨u, hu⟩
        rcases List.mem_cons.mp hu with he | hu
        · exact absurd (congrArg Prod.fst he).symm hk
        · exact ⟨u, hu⟩

theorem Entries.contains_iff_get? {α : Type} {key : String} {m : Entries α} :
    Entries.contains key m = true ↔ ∃ v, Entries.get? key m = some v := Option.isSome_iff_exists

/-- The table of a component lists each name once. -/
theorem Component.names_nodup (c : Component) : (c.props.map PropSchema.name).Nodup := by
  cases c <;> decide

theorem Component.prop?_eq_some_iff {c : Component} {name : String} {schema : PropSchema} :
    c.prop? name = some schema ↔ schema ∈ c.props ∧ schema.name = name := by
  have hn := c.names_nodup
  unfold prop?
  generalize c.props = schemas at hn ⊢
  induction schemas with
  | nil => simp
  | cons head rest ih =>
    obtain ⟨hhead, hrest⟩ := List.nodup_cons.mp hn
    by_cases hname : head.name = name
    · rw [List.find?_cons_of_pos (by simp [hname]), Option.some.injEq, List.mem_cons]
      constructor
      · rintro rfl
        exact ⟨.inl rfl, hname⟩
      · rintro ⟨rfl | hmem, he⟩
        · rfl
        · exact absurd (List.mem_map.mpr ⟨schema, hmem, he.trans hname.symm⟩) hhead
    · rw [List.find?_cons_of_neg (by simp [hname]), List.mem_cons]
      refine (ih hrest).trans ?_
      constructor
      · exact fun ⟨hmem, he⟩ => ⟨.inr hmem, he⟩
      · rintro ⟨rfl | hmem, he⟩
        · exact absurd he hname
        · exact ⟨hmem, he⟩

/-! ### One property -/

section Property

variable [Scalar R] {v : Json R}

theorem PropKind.fault?_eq_none_iff {kind : PropKind} : kind.fault? v = none ↔ kind.Admits v := by
  cases kind with
  | number => cases v <;> simp [fault?, Admits]
  | string => cases v <;> simp [fault?, Admits]
  | oneOf choices => cases v <;> simp [fault?, Admits, Json.asString?]

omit [Scalar R] in
/-- An object is no literal. -/
theorem PropKind.not_admits_obj (kind : PropKind) (members : List (String × Json R)) :
    ¬ kind.Admits (.obj members) := by
  cases kind <;> simp [Admits]

omit [Scalar R] in
theorem PropKind.not_admits_null (kind : PropKind) : ¬ kind.Admits (.null : Json R) := by
  cases kind <;> simp [Admits]

omit [Scalar R] in
/-- A literal stays as it is. -/
theorem PropKind.Admits.ofProp? {kind : PropKind} (h : kind.Admits v) :
    PropValue.ofProp? v = some (.literal v) := by
  cases v with
  | null => exact absurd h kind.not_admits_null
  | obj members => exact absurd h (kind.not_admits_obj members)
  | _ => rfl

/-- **How a property is read.**  An object with the marking member is a binding and nothing else; it
fails unless it is the marking member alone with a rooted path. -/
theorem PropValue.ofJson_cases (v : Json R) :
    (∃ path, v = .obj [(bindKey, .str path)] ∧ path.toList.head? = some '/' ∧
        ofJson v = .ok (.bound path)) ∨
      ((∀ path, v ≠ .obj [(bindKey, .str path)]) ∧ ofJson v = .ok (.literal v)) ∨
      (¬ ∃ path, v = .obj [(bindKey, .str path)] ∧ path.toList.head? = some '/') ∧
        ∃ members reason, v = .obj members ∧ ofJson v = .error reason := by
  cases v with
  | obj members =>
    have hsingle (u : Json R) : Entries.get? bindKey [(bindKey, u)] = some u := if_pos rfl
    rcases hget : Entries.get? bindKey members with _ | u
    · refine .inr (.inl ⟨fun path he => ?_, ?_⟩)
      · cases he
        cases (hsingle _).symm.trans hget
      · unfold ofJson
        simp only [hget]
    · by_cases hb : ∃ path, Json.obj members = .obj [(bindKey, .str path)] ∧
          path.toList.head? = some '/'
      · obtain ⟨path, he, hslash⟩ := hb
        cases he
        refine .inl ⟨path, rfl, hslash, ?_⟩
        unfold ofJson
        simp [hsingle, Text.startsWith_slash.mpr hslash]
      · refine .inr (.inr ⟨hb, members, ?_⟩)
        unfold ofJson
        simp only [hget]
        cases u with
        | str path =>
          refine ⟨_, trivial, if_neg fun hcond => hb ?_⟩
          obtain ⟨hslash, hlen⟩ := Bool.and_eq_true_iff.mp hcond
          obtain ⟨⟨k, w⟩, rfl⟩ := List.length_eq_one_iff.mp (beq_iff_eq.mp hlen)
          by_cases hk : k = bindKey
          · subst hk
            cases (hsingle w).symm.trans hget
            exact ⟨path, rfl, Text.startsWith_slash.mp hslash⟩
          · rw [Entries.get?, if_neg hk] at hget
            cases hget
        | _ => exact ⟨_, trivial, rfl⟩
  | _ => exact .inr (.inl ⟨nofun, rfl⟩)

omit [Scalar R] in
/-- The name decides which schema of the table counts. -/
theorem Component.declares_iff {c : Component} {name : String} {schema : PropSchema}
    (hp : c.prop? name = some schema) : c.Declares name v ↔ schema.Admits v := by
  constructor
  · rintro ⟨schema', hmem, hname, hadmits⟩
    cases hp.symm.trans (Component.prop?_eq_some_iff.mpr ⟨hmem, hname⟩)
    exact hadmits
  · intro hadmits
    obtain ⟨hmem, hname⟩ := Component.prop?_eq_some_iff.mp hp
    exact ⟨schema, hmem, hname, hadmits⟩

omit [Scalar R] in
/-- What is no binding and not left out has to be a literal. -/
theorem PropSchema.admits_iff {schema : PropSchema} (hno : ∀ path, v ≠ .obj [(bindKey, .str path)])
    (hnull : ¬ (v.isNull && !schema.required) = true) : schema.Admits v ↔ schema.kind.Admits v := by
  constructor
  · rintro (⟨path, hv, -⟩ | ⟨rfl, hopt⟩ | h)
    · exact absurd hv (hno path)
    · exact absurd (by simp [Json.isNull, hopt]) hnull
    · exact h
  · exact fun h => .inr (.inr h)

/-- One property with its schema. -/
theorem PanelSpec.compileProp_of_prop? {id : String} {c : Component} {name : String}
    {schema : PropSchema} (hp : c.prop? name = some schema) {p : Option (PropValue R)} :
    compileProp id c name v = .ok p ↔ schema.Admits v ∧ p = PropValue.ofProp? v := by
  unfold compileProp
  rcases PropValue.ofJson_cases v with
    ⟨path, rfl, hslash, he⟩ | ⟨hno, he⟩ | ⟨hno, members, reason, rfl, he⟩
  · simp only [hp, he]
    constructor
    · intro h
      cases h
      exact ⟨.inl ⟨path, rfl, hslash⟩, by simp [PropValue.ofProp?]⟩
    · rintro ⟨-, rfl⟩
      simp [PropValue.ofProp?]
  · simp only [hp, he]
    by_cases hnull : (v.isNull && !schema.required) = true
    · rw [if_pos hnull]
      obtain ⟨hnull, hopt⟩ := Bool.and_eq_true_iff.mp hnull
      cases v with
      | null =>
        constructor
        · intro h
          cases h
          exact ⟨.inr (.inl ⟨rfl, by simpa using hopt⟩), rfl⟩
        · rintro ⟨-, rfl⟩
          rfl
      | _ => cases hnull
    · rw [if_neg hnull, PropSchema.admits_iff hno hnull, ← PropKind.fault?_eq_none_iff]
      rcases hf : schema.kind.fault? v with _ | reason
      · rw [(PropKind.fault?_eq_none_iff.mp hf).ofProp?]
        simp [eq_comm]
      · simp
  · simp only [hp, he]
    constructor
    · intro h
      cases h
    · rintro ⟨hb | ⟨hnull, -⟩ | h, -⟩
      · exact absurd hb hno
      · cases hnull
      · exact absurd h (schema.kind.not_admits_obj members)

theorem PanelSpec.compileProp_eq_ok_iff {id : String} {c : Component} {name : String}
    {p : Option (PropValue R)} :
    compileProp id c name v = .ok p ↔ c.Declares name v ∧ p = PropValue.ofProp? v := by
  rcases hp : c.prop? name with _ | schema
  · constructor
    · intro h
      unfold compileProp at h
      rw [hp] at h
      cases h
    · rintro ⟨⟨schema, hmem, hname, -⟩, -⟩
      cases hp.symm.trans (Component.prop?_eq_some_iff.mpr ⟨hmem, hname⟩)
  · rw [compileProp_of_prop? hp, Component.declares_iff hp]

end Property

/-! ### All properties -/

section Properties

variable [Scalar R] {id : String} {c : Component} {raw : Entries (Json R)}
  {ps : Entries (PropValue R)}

theorem PanelSpec.compilePropList_eq_ok_iff :
    compilePropList id c raw = .ok ps ↔
      (∀ name v, (name, v) ∈ raw → c.Declares name v) ∧ ps = widgetProps raw := by
  induction raw generalizing ps with
  | nil =>
    constructor
    · intro h
      cases h
      exact ⟨fun _ _ h => (List.not_mem_nil h).elim, rfl⟩
    · rintro ⟨-, rfl⟩
      rfl
  | cons e rest ih =>
    obtain ⟨name, v⟩ := e
    rw [compilePropList]
    constructor
    · intro h
      rcases hp : compileProp id c name v with _ | p
      · rw [hp] at h
        cases h
      · rcases hps : compilePropList id c rest with _ | qs
        · rw [hp, hps] at h
          cases h
        · rw [hp, hps] at h
          cases h
          obtain ⟨hv, rfl⟩ := compileProp_eq_ok_iff.mp hp
          obtain ⟨hrest, rfl⟩ := ih.mp hps
          refine ⟨fun name' v' hmem => ?_, ?_⟩
          · rcases List.mem_cons.mp hmem with he | hmem
            · cases he
              exact hv
            · exact hrest name' v' hmem
          · unfold widgetProps
            rw [List.filterMap_cons]
            rcases PropValue.ofProp? v with _ | p <;> rfl
    · rintro ⟨hall, rfl⟩
      have hp : compileProp id c name v = _ :=
        compileProp_eq_ok_iff.mpr ⟨hall name v List.mem_cons_self, rfl⟩
      have hps := ih.mpr ⟨fun name' v' hmem => hall name' v' (List.mem_cons_of_mem _ hmem), rfl⟩
      rw [hp, hps]
      unfold widgetProps
      rw [List.filterMap_cons]
      rcases PropValue.ofProp? v with _ | p <;> rfl

omit [Scalar R] in
theorem mem_widgetProps {name : String} {p : PropValue R} :
    (name, p) ∈ widgetProps raw ↔ ∃ v, (name, v) ∈ raw ∧ PropValue.ofProp? v = some p := by
  unfold widgetProps
  rw [List.mem_filterMap]
  constructor
  · rintro ⟨⟨n, v⟩, hmem, he⟩
    obtain ⟨q, hq, he⟩ := Option.map_eq_some_iff.mp he
    cases he
    exact ⟨v, hmem, hq⟩
  · rintro ⟨v, hmem, hp⟩
    exact ⟨(name, v), hmem, by rw [hp]; rfl⟩

omit [Scalar R] in
/-- A required property that may be is in the widget. -/
theorem PropSchema.Admits.ofProp? {schema : PropSchema} {v : Json R} (h : schema.Admits v)
    (hr : schema.required = true) : ∃ p, PropValue.ofProp? v = some p := by
  rcases h with ⟨path, rfl, -⟩ | ⟨-, hopt⟩ | h
  · exact ⟨_, rfl⟩
  · cases hr.symm.trans hopt
  · exact ⟨_, h.ofProp?⟩

omit [Scalar R] in
/-- In a widget a required property is there if the element has it. -/
theorem contains_widgetProps (hd : ∀ name v, (name, v) ∈ raw → c.Declares name v)
    {schema : PropSchema} (hs : schema ∈ c.props) (hr : schema.required = true) :
    Entries.contains schema.name (widgetProps raw) = true ↔ ∃ v, (schema.name, v) ∈ raw := by
  rw [Entries.contains_iff]
  constructor
  · rintro ⟨p, hp⟩
    obtain ⟨v, hmem, -⟩ := mem_widgetProps.mp hp
    exact ⟨v, hmem⟩
  · rintro ⟨v, hmem⟩
    obtain ⟨schema', hs', hname, hadmits⟩ := hd _ _ hmem
    cases (Component.prop?_eq_some_iff.mpr ⟨hs', hname⟩).symm.trans
      (Component.prop?_eq_some_iff.mpr ⟨hs, rfl⟩)
    obtain ⟨p, hp⟩ := hadmits.ofProp? hr
    exact ⟨p, mem_widgetProps.mpr ⟨v, hmem, hp⟩⟩

theorem PanelSpec.compileProps_of_complete (h : compilePropList id c raw = .ok ps)
    (hc : ∀ schema ∈ c.props, schema.required = true → Entries.contains schema.name ps = true) :
    compileProps id c raw = .ok ps := by
  have hf : (c.props.find? fun s => s.required && !Entries.contains s.name ps) = none :=
    List.find?_eq_none.mpr fun schema hs => by
      have := hc schema hs
      simpa using this
  unfold compileProps
  simp only [h, bind, Except.bind, hf]
  rfl

theorem PanelSpec.compileProps_of_missing (h : compilePropList id c raw = .ok ps)
    {schema : PropSchema} (hs : schema ∈ c.props) (hr : schema.required = true)
    (hc : Entries.contains schema.name ps = false) : ∃ e, compileProps id c raw = .error e := by
  rcases hf : c.props.find? fun s => s.required && !Entries.contains s.name ps with _ | s
  · have := List.find?_eq_none.mp hf schema hs
    simp [hr, hc] at this
  · refine ⟨.missingProp id c s.name, ?_⟩
    unfold compileProps
    simp only [h, bind, Except.bind, hf]
    rfl

/-- **The checks of the properties** let through what the component accepts, and that only. -/
theorem PanelSpec.compileProps_eq_ok_iff :
    compileProps id c raw = .ok ps ↔ c.Accepts raw ∧ ps = widgetProps raw := by
  constructor
  · intro h
    rcases hps : compilePropList id c raw with e | qs
    · unfold compileProps at h
      rw [hps] at h
      cases h
    · obtain ⟨hd, rfl⟩ := compilePropList_eq_ok_iff.mp hps
      have hcomplete : ∀ schema ∈ c.props, schema.required = true →
          Entries.contains schema.name (widgetProps raw) = true := by
        intro schema hs hr
        rcases hc : Entries.contains schema.name (widgetProps raw) with _ | _
        · obtain ⟨e, he⟩ := compileProps_of_missing hps hs hr hc
          cases he.symm.trans h
        · rfl
      cases (compileProps_of_complete hps hcomplete).symm.trans h
      refine ⟨⟨hd, fun schema hs hr => ?_⟩, rfl⟩
      exact (contains_widgetProps hd hs hr).mp (hcomplete schema hs hr)
  · rintro ⟨⟨hd, hr⟩, rfl⟩
    have hps : compilePropList id c raw = .ok (widgetProps raw) :=
      compilePropList_eq_ok_iff.mpr ⟨hd, rfl⟩
    exact compileProps_of_complete hps fun schema hs hreq =>
      (contains_widgetProps hd hs hreq).mpr (hr schema hs hreq)

end Properties

end LedStrip
