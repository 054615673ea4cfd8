import LedStrip.Proofs.Effect.Options

/-!
# Entries that list no key twice

Where no key is listed twice, a lookup finds every entry, and sorting the entries only permutes them
(`ofList_perm`).  Inserting under two keys commutes whatever the entries are (`insert_comm`), so a
value can be put in later than its key (`insertAll_insert`).
-/

namespace LedStrip
namespace Entries

variable {α : Type}

theorem get?_of_mem {m : Entries α} (hm : (keys m).Nodup) {key : String} {v : α}
    (h : (key, v) ∈ m) : get? key m = some v := by
  induction m with
  | nil => exact (List.not_mem_nil h).elim
  | cons e rest ih =>
    obtain ⟨k, w⟩ := e
    obtain ⟨hk, hrest⟩ := List.nodup_cons.mp hm
    rcases List.mem_cons.mp h with he | h
    · cases he
      exact if_pos rfl
    · have hmem : key ∈ keys rest := List.mem_map.mpr ⟨(key, v), h, rfl⟩
      have hne : k ≠ key := fun he => hk (he ▸ hmem)
      rw [get?, if_neg hne, ih hrest h]

theorem mem_of_get? {m : Entries α} {key : String} {v : α}
    (h : get? key m = some v) : (key, v) ∈ m := by
  induction m with
  | nil => cases h
  | cons e rest ih =>
    obtain ⟨k, w⟩ := e
    by_cases hk : k = key
    · rw [get?, if_pos hk] at h
      cases h
      exact hk ▸ List.mem_cons_self
    · rw [get?, if_neg hk] at h
      exact List.mem_cons_of_mem _ (ih h)

theorem insert_perm {key : String} {m : Entries α} (h : key ∉ keys m) (v : α) :
    (insert key v m).Perm ((key, v) :: m) := by
  induction m with
  | nil => exact .refl _
  | cons e rest ih =>
    obtain ⟨k, w⟩ := e
    have hk : k ≠ key := fun he => h (he ▸ List.mem_cons_self)
    have hrest : key ∉ keys rest := fun hm => h (List.mem_cons_of_mem _ hm)
    rw [insert, if_neg hk]
    split
    · exact .refl _
    · exact ((ih hrest).cons _).trans (.swap _ _ _)

/-! ### Two insertions -/

section Cons

variable {key k : String} (v x : α) (rest : Entries α)

theorem insert_cons_self : insert k v ((k, x) :: rest) = (k, v) :: rest := if_pos rfl

theorem insert_cons_of_lt (h : key < k) :
    insert key v ((k, x) :: rest) = (key, v) :: (k, x) :: rest := by
  rw [insert, if_neg (ne_of_gt h), if_pos h]

theorem insert_cons_of_gt (h : k < key) :
    insert key v ((k, x) :: rest) = (k, x) :: insert key v rest := by
  rw [insert, if_neg (ne_of_lt h), if_neg (lt_asymm h)]

end Cons

theorem insert_insert (key : String) (v w : α) (m : Entries α) :
    insert key v (insert key w m) = insert key v m := by
  induction m with
  | nil => exact insert_cons_self v w []
  | cons e rest ih =>
    obtain ⟨k, x⟩ := e
    rcases lt_trichotomy k key with hlt | rfl | hgt
    · rw [insert_cons_of_gt w x rest hlt, insert_cons_of_gt v x _ hlt, ih,
        insert_cons_of_gt v x rest hlt]
    · rw [insert_cons_self, insert_cons_self, insert_cons_self]
    · rw [insert_cons_of_lt w x rest hgt, insert_cons_self, insert_cons_of_lt v x rest hgt]

theorem insert_comm_of_lt {a b : String} (h : a < b) (v w : α) (m : Entries α) :
    insert a v (insert b w m) = insert b w (insert a v m) := by
  induction m with
  | nil => exact (insert_cons_of_lt v w [] h).trans (insert_cons_of_gt w v [] h).symm
  | cons e rest ih =>
    obtain ⟨k, x⟩ := e
    rcases lt_trichotomy k a with hlt | rfl | hgt
    · rw [insert_cons_of_gt w x rest (hlt.trans h), insert_cons_of_gt v x _ hlt, ih,
        insert_cons_of_gt v x rest hlt, insert_cons_of_gt w x _ (hlt.trans h)]
    · rw [insert_cons_of_gt w x rest h, insert_cons_self, insert_cons_self,
        insert_cons_of_gt w v rest h]
    · -- `a` stays in front of whatever `b` does to the rest
      rw [insert_cons_of_lt v x rest hgt, insert_cons_of_gt w v _ h]
      rcases lt_trichotomy k b with hkb | rfl | hkb
      · rw [insert_cons_of_gt w x rest hkb, insert_cons_of_lt v x _ hgt]
      · rw [insert_cons_self, insert_cons_of_lt v w rest hgt]
      · rw [insert_cons_of_lt w x rest hkb, insert_cons_of_lt v w _ h]

theorem insert_comm {a b : String} (h : a ≠ b) (v w : α) (m : Entries α) :
    insert a v (insert b w m) = insert b w (insert a v m) := by
  rcases lt_or_gt_of_ne h with hlt | hgt
  · exact insert_comm_of_lt hlt v w m
  · exact (insert_comm_of_lt hgt w v m).symm

/-! ### Many insertions -/

/-- Insert some entries, one after the other. -/
def insertAll (xs : List (String × α)) (m : Entries α) : Entries α :=
  xs.foldl (fun m e => insert e.1 e.2 m) m

theorem insertAll_append (xs ys : List (String × α)) (m : Entries α) :
    insertAll (xs ++ ys) m = insertAll ys (insertAll xs m) := List.foldl_append

/-- A key that no other entry has can be inserted first or last. -/
theorem insert_insertAll {key : String} {xs : List (String × α)} (h : key ∉ keys xs) (v : α)
    (m : Entries α) : insert key v (insertAll xs m) = insertAll xs (insert key v m) := by
  induction xs generalizing m with
  | nil => rfl
  | cons e xs ih =>
    have hne : e.1 ≠ key := fun he => h (he ▸ List.mem_cons_self)
    have hxs : key ∉ keys xs := fun hm => h (List.mem_cons_of_mem _ hm)
    rw [insertAll, List.foldl_cons, ← insertAll, ih hxs, insert_comm hne.symm]
    rfl

theorem insertAll_perm {xs : List (String × α)} {m : Entries α} (h : (keys (xs ++ m)).Nodup) :
    (insertAll xs m).Perm (xs ++ m) := by
  induction xs generalizing m with
  | nil => exact .refl _
  | cons e xs ih =>
    have hmove : (e :: xs ++ m).Perm (xs ++ e :: m) := List.perm_middle.symm
    have hnodup : (keys (xs ++ e :: m)).Nodup := (hmove.map Prod.fst).nodup_iff.mp h
    have hinsert : (insert e.1 e.2 m).Perm (e :: m) := by
      refine insert_perm (fun hm => ?_) e.2
      obtain ⟨e', he', hkey⟩ := List.mem_map.mp hm
      exact (List.nodup_cons.mp h).1 (List.mem_map.mpr ⟨e', List.mem_append_right xs he', hkey⟩)
    have hkeys : (keys (xs ++ insert e.1 e.2 m)).Nodup :=
      (((hinsert.append_left xs).map Prod.fst).nodup_iff).mpr hnodup
    exact (ih hkeys).trans ((hinsert.append_left xs).trans hmove.symm)

/-- Sorting entries that list no key twice permutes them. -/
theorem ofList_perm {m : List (String × α)} (h : (keys m).Nodup) : (ofList m).Perm m := by
  have hm : (keys (m ++ [])).Nodup := by rwa [List.append_nil]
  have hperm : (insertAll m []).Perm (m ++ []) := insertAll_perm hm
  rwa [List.append_nil] at hperm

end Entries
end LedStrip
