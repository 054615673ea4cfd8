/-!
# Entries in key order

A finite map from strings, kept as a list of pairs.  `insert` puts a key at its place in the order of code points and
replaces the value of a key that is there, so a map built from nothing by `insert` is sorted and lists each key once.
-/

namespace LedStrip

abbrev Entries (α : Type) := List (String × α)

namespace Entries

variable {α : Type}

/-- Value of a key. -/
def get? (key : String) : Entries α → Option α
  | [] => none
  | (k, v) :: rest => if k = key then some v else get? key rest

def contains (key : String) (m : Entries α) : Bool := (get? key m).isSome

def insert (key : String) (value : α) : Entries α → Entries α
  | [] => [(key, value)]
  | (k, v) :: rest =>
    if k = key then (key, value) :: rest
    else if key < k then (key, value) :: (k, v) :: rest
    else (k, v) :: insert key value rest

def erase (key : String) (m : Entries α) : Entries α := m.filter fun e => e.1 != key

def ofList (xs : List (String × α)) : Entries α := xs.foldl (fun m e => insert e.1 e.2 m) []

def keys (m : Entries α) : List String := m.map (·.1)

def values (m : Entries α) : List α := m.map (·.2)

/-! ### Lookups after an update -/

@[simp] theorem get?_insert_self (key : String) (value : α) (m : Entries α) :
    get? key (insert key value m) = some value := by
  induction m with
  | nil => simp [insert, get?]
  | cons e rest ih =>
    obtain ⟨k, v⟩ := e
    by_cases h : k = key
    · simp [insert, get?, h]
    · by_cases h' : key < k <;> simp [insert, get?, h, h', ih]

theorem get?_insert_of_ne {key other : String} (h : other ≠ key) (value : α) (m : Entries α) :
    get? other (insert key value m) = get? other m := by
  induction m with
  | nil => simp [insert, get?, h.symm]
  | cons e rest ih =>
    obtain ⟨k, v⟩ := e
    by_cases hk : k = key
    · subst hk; simp [insert, get?, h.symm]
    · by_cases h' : key < k <;> simp [insert, get?, hk, h', ih, h.symm]

end Entries
end LedStrip
