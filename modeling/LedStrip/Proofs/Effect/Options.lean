import Mathlib.Data.List.Induction
import Mathlib.Data.String.Basic
import LedStrip.Effect.Options

/-!
# Options as a script sees them

A script is told its options as one object, in which the length and the interval stand among the
parameters.  Where the parameters are sorted and leave those two names alone (`WellFormed`, which
is what `decode` makes), every key of that object has the value that the options have for it.
-/

namespace LedStrip

/-! ### Answers that may be errors -/

theorem Except.bind_eq_ok {ε α β : Type} {x : Except ε α} {f : α → Except ε β} {b : β}
    (h : (x >>= f) = .ok b) : ∃ a, x = .ok a ∧ f a = .ok b := by
  cases x with
  | error e => cases h
  | ok a => exact ⟨a, rfl, h⟩

theorem Except.mapError_eq_ok {ε ε' α : Type} {x : Except ε α} {f : ε → ε'} {a : α}
    (h : x.mapError f = .ok a) : x = .ok a := by
  cases x with
  | error e => cases h
  | ok b =>
    cases h
    rfl

theorem Except.map_eq_ok {ε α β : Type} {x : Except ε α} {f : α → β} {b : β}
    (h : x.map f = .ok b) : ∃ a, x = .ok a ∧ f a = b := by
  cases x with
  | error e => cases h
  | ok a => exact ⟨a, rfl, Except.ok.inj h⟩

/-! ### Sorted entries -/

namespace Entries

variable {α : Type}

/-- Entries in key order, each key once. -/
def Sorted (m : Entries α) : Prop := m.Pairwise fun a b => a.1 < b.1

theorem mem_of_mem_insert {key : String} {v : α} {m : Entries α} {e : String × α}
    (h : e ∈ insert key v m) : e = (key, v) ∨ e ∈ m := by
  induction m with
  | nil => exact .inl (List.mem_singleton.mp h)
  | cons x rest ih =>
    obtain ⟨k, w⟩ := x
    rw [insert] at h
    split at h
    · exact (List.mem_cons.mp h).imp_right (List.mem_cons_of_mem _)
    · split at h
      · exact List.mem_cons.mp h
      · rcases List.mem_cons.mp h with rfl | h
        · exact .inr List.mem_cons_self
        · exact (ih h).imp_right (List.mem_cons_of_mem _)

theorem Sorted.insert {m : Entries α} (h : m.Sorted) (key : String) (v : α) :
    Sorted (insert key v m) := by
  induction m with
  | nil => exact List.pairwise_singleton _ _
  | cons x rest ih =>
    obtain ⟨k, w⟩ := x
    obtain ⟨hhead, hrest⟩ := List.pairwise_cons.mp h
    rw [Entries.insert]
    split
    · next hk => exact List.pairwise_cons.mpr ⟨hk ▸ hhead, hrest⟩
    · split
      · next hlt =>
        refine List.pairwise_cons.mpr ⟨fun e he => ?_, h⟩
        rcases List.mem_cons.mp he with rfl | he
        · exact hlt
        · exact String.lt_trans hlt (hhead e he)
      · next hne hnlt =>
        refine List.pairwise_cons.mpr ⟨fun e he => ?_, ih hrest⟩
        rcases mem_of_mem_insert he with rfl | he
        · exact lt_of_le_of_ne (not_lt.mp hnlt) hne
        · exact hhead e he

theorem Sorted.nodup {m : Entries α} (h : m.Sorted) : (keys m).Nodup :=
  List.pairwise_map.mpr (h.imp fun hlt => ne_of_lt hlt)

theorem get?_eq_none {key : String} {m : Entries α} (h : key ∉ keys m) : get? key m = none := by
  induction m with
  | nil => rfl
  | cons x rest ih =>
    obtain ⟨k, v⟩ := x
    simp only [keys, List.map_cons, List.mem_cons, not_or] at h
    rw [get?, if_neg (Ne.symm h.1), ih h.2]

theorem get?_append (key : String) (m m' : Entries α) :
    get? key (m ++ m') = (get? key m).or (get? key m') := by
  induction m with
  | nil => rfl
  | cons x rest ih =>
    obtain ⟨k, v⟩ := x
    by_cases hk : k = key <;> simp [get?, hk, ih]

/-- Entries that list no key twice keep their values when they are sorted. -/
theorem get?_ofList {m : List (String × α)} (h : (keys m).Nodup) (key : String) :
    get? key (ofList m) = get? key m := by
  induction m using List.reverseRecOn with
  | nil => rfl
  | append_singleton m x ih =>
    obtain ⟨k, v⟩ := x
    simp only [keys, List.map_append, List.map_cons, List.map_nil] at h
    obtain ⟨hm, -, hdisjoint⟩ := List.nodup_append.mp h
    have hof : ofList (m ++ [(k, v)]) = insert k v (ofList m) := by simp [ofList]
    rw [hof, get?_append]
    by_cases hk : key = k
    · subst hk
      have hnone : get? key m = none :=
        get?_eq_none fun hmem => hdisjoint key hmem key (by simp) rfl
      rw [get?_insert_self, hnone]
      simp [get?]
    · rw [get?_insert_of_ne hk, ih hm]
      simp [get?, Ne.symm hk]

end Entries

namespace EffectOptions

variable {R : Type}

theorem one_le_getD_filter {n? : Option Nat} {default : Nat} (hd : 1 ≤ default) :
    1 ≤ (n?.filter (0 < ·)).getD default := by
  cases h : n?.filter (0 < ·) with
  | none => exact hd
  | some n =>
    obtain ⟨-, hn⟩ := Option.filter_eq_some_iff.mp h
    exact of_decide_eq_true hn

theorem ledCount_pos (o : EffectOptions R) : 1 ≤ o.ledCount := one_le_getD_filter (by decide)

theorem speedOr_pos (o : EffectOptions R) {default : Nat} (hd : 1 ≤ default) :
    1 ≤ o.speedOr default := one_le_getD_filter hd

/-- The parameters are sorted, and neither the length nor the interval is one of them. -/
structure WellFormed (o : EffectOptions R) : Prop where
  sorted : o.params.Sorted
  ledCount : "ledCount" ∉ Entries.keys o.params
  speed : "speed" ∉ Entries.keys o.params

theorem not_mem_keys_insert {key name : String} {v : Json R} {m : Entries (Json R)}
    (hname : name ∉ Entries.keys m) (hne : name ≠ key) :
    name ∉ Entries.keys (Entries.insert key v m) := fun hmem => by
  obtain ⟨e, he, rfl⟩ := List.mem_map.mp hmem
  rcases Entries.mem_of_mem_insert he with rfl | he
  · exact hne rfl
  · exact hname (List.mem_map_of_mem he)

theorem WellFormed.withParam {o : EffectOptions R} (h : o.WellFormed) {key : String}
    (hledCount : key ≠ "ledCount") (hspeed : key ≠ "speed") (v : Json R) :
    (o.withParam key v).WellFormed where
  sorted := h.sorted.insert key v
  ledCount := not_mem_keys_insert h.ledCount hledCount.symm
  speed := not_mem_keys_insert h.speed hspeed.symm

variable [Scalar R]

theorem WellFormed.decodeMembers {members : List (String × Json R)} {o o' : EffectOptions R}
    {led speed : Bool} (ho : o.WellFormed) (h : o.decodeMembers led speed members = .ok o') :
    o'.WellFormed := by
  induction members generalizing o led speed with
  | nil => cases h; exact ho
  | cons e rest ih =>
    obtain ⟨k, v⟩ := e
    rw [EffectOptions.decodeMembers] at h
    split at h
    · split at h
      · cases h
      · cases hv : Decoder.optional (Decoder.word "usize") v with
        | error e => simp [hv, bind, Except.bind] at h
        | ok n =>
          simp only [hv, bind, Except.bind] at h
          exact ih (o := { o with ledCount? := n }) ⟨ho.sorted, ho.ledCount, ho.speed⟩ h
    · next hledCount =>
      split at h
      · split at h
        · cases h
        · cases hv : Decoder.optional (Decoder.word "u64") v with
          | error e => simp [hv, bind, Except.bind] at h
          | ok n =>
            simp only [hv, bind, Except.bind] at h
            exact ih (o := { o with speed? := n }) ⟨ho.sorted, ho.ledCount, ho.speed⟩ h
      · next hspeed => exact ih (ho.withParam hledCount hspeed v.canonical) h

/-- Options that were decoded are well-formed. -/
theorem wellFormed_of_decode {v : Json R} {o : EffectOptions R} (h : decode v = .ok o) :
    o.WellFormed := by
  cases v with
  | obj members =>
    have hempty : ({} : EffectOptions R).WellFormed :=
      ⟨List.Pairwise.nil, List.not_mem_nil, List.not_mem_nil⟩
    exact hempty.decodeMembers h
  | _ => cases h

omit [Scalar R] in
/-- What the options say under a key of the object that they become. -/
theorem get?_toJson {o : EffectOptions R} (h : o.WellFormed) (key : String) :
    o.toJson.get? key =
      if key = "ledCount" then o.ledCount?.map Json.ofNat
      else if key = "speed" then o.speed?.map Json.ofNat
      else Entries.get? key o.params := by
  have hledCount : ∀ v, ("ledCount", v) ∉ o.params := fun v hv =>
    h.ledCount (List.mem_map_of_mem hv)
  have hspeed : ∀ v, ("speed", v) ∉ o.params := fun v hv => h.speed (List.mem_map_of_mem hv)
  have hparams : (o.params.map Prod.fst).Nodup := h.sorted.nodup
  have hnodup : (Entries.keys
      ((o.ledCount?.map fun n => ("ledCount", Json.ofNat (R := R) n)).toList ++
      (o.speed?.map fun n => ("speed", .ofNat n)).toList ++ o.params)).Nodup := by
    cases o.ledCount? <;> cases o.speed? <;> simp [Entries.keys, hparams, hledCount, hspeed]
  rw [toJson, Json.mkObj, Json.get?, Entries.get?_ofList hnodup, Entries.get?_append,
    Entries.get?_append]
  by_cases hl : key = "ledCount"
  · subst hl
    rw [Entries.get?_eq_none h.ledCount]
    cases o.ledCount? <;> cases o.speed? <;> simp [Entries.get?]
  · by_cases hs : key = "speed"
    · subst hs
      rw [Entries.get?_eq_none h.speed]
      cases o.ledCount? <;> cases o.speed? <;> simp [Entries.get?]
    · cases o.ledCount? <;> cases o.speed? <;>
        simp [Entries.get?, hl, hs, Ne.symm hl, Ne.symm hs]

end EffectOptions
end LedStrip
