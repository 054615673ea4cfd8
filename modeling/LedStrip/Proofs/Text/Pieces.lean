import Mathlib.Data.List.Basic
import LedStrip.Text.Basic

/-!
# Pieces of a text

Cutting a text at a separator loses nothing: pieces of joined texts follow one another
(`pieces_append`), no piece holds the separator, and what does not hold it is one piece.
-/

namespace LedStrip

namespace Text

variable {sep : Char} {cs : List Char}

theorem piecesOf_append (sep : Char) (cs ds : List Char) :
    piecesOf sep (cs ++ sep :: ds) = piecesOf sep cs ++ piecesOf sep ds := by
  induction cs with
  | nil => simp [piecesOf]
  | cons c cs ih =>
    by_cases hc : c = sep
    · simp [piecesOf, hc, ih]
    · cases hp : piecesOf sep cs with
      | nil => exact absurd hp (piecesOf_ne_nil sep cs)
      | cons p ps => simp [piecesOf, hc, ih, hp]

theorem piecesOf_of_not_mem (h : sep ∉ cs) : piecesOf sep cs = [cs] := by
  induction cs with
  | nil => rfl
  | cons c cs ih =>
    obtain ⟨hc, hcs⟩ := not_or.mp (mt List.mem_cons.mpr h)
    simp [piecesOf, Ne.symm hc, ih hcs]

theorem not_mem_of_mem_piecesOf {p : List Char} (h : p ∈ piecesOf sep cs) : sep ∉ p := by
  induction cs generalizing p with
  | nil =>
    obtain rfl := List.mem_singleton.mp h
    exact List.not_mem_nil
  | cons c cs ih =>
    rw [piecesOf] at h
    split at h
    · rcases List.mem_cons.mp h with rfl | h
      · exact List.not_mem_nil
      · exact ih h
    · next hc =>
      cases hp : piecesOf sep cs with
      | nil => exact absurd hp (piecesOf_ne_nil sep cs)
      | cons q qs =>
        rw [hp] at h ih
        rcases List.mem_cons.mp h with rfl | h
        · exact not_or.mpr ⟨Ne.symm hc, ih List.mem_cons_self⟩ ∘ List.mem_cons.mp
        · exact ih (List.mem_cons_of_mem _ h)

/-- The first piece is empty where a text begins with the separator, and where it is empty. -/
theorem head_piecesOf_eq_nil_iff :
    (piecesOf sep cs).head? = some [] ↔ cs = [] ∨ cs.head? = some sep := by
  cases cs with
  | nil => simp [piecesOf]
  | cons c cs =>
    by_cases hc : c = sep
    · simp [piecesOf, hc]
    · cases hp : piecesOf sep cs with
      | nil => exact absurd hp (piecesOf_ne_nil sep cs)
      | cons p ps => simp [piecesOf, hc, hp]

theorem pieces_append (s t : String) :
    pieces '/' (s ++ "/" ++ t) = pieces '/' s ++ pieces '/' t := by
  have hchars : (s ++ "/" ++ t).toList = s.toList ++ '/' :: t.toList := by
    simp [String.toList_append]
  rw [pieces, hchars, piecesOf_append, List.map_append]
  rfl

theorem pieces_slash (s : String) : pieces '/' (s ++ "/") = pieces '/' s ++ [""] := by
  rw [← String.append_empty (s := s ++ "/"), pieces_append]
  rfl

theorem pieces_of_not_mem {s : String} (h : '/' ∉ s.toList) : pieces '/' s = [s] := by
  rw [pieces, piecesOf_of_not_mem h, List.map_singleton, String.ofList_toList]

theorem not_mem_of_mem_pieces {s p : String} (h : p ∈ pieces '/' s) : '/' ∉ p.toList := by
  obtain ⟨cs, hcs, rfl⟩ := List.mem_map.mp h
  rw [String.toList_ofList]
  exact not_mem_of_mem_piecesOf hcs

theorem exists_pieces_eq (s : String) : ∃ first rest, pieces '/' s = first :: rest := by
  cases h : pieces '/' s with
  | nil => exact absurd (List.map_eq_nil_iff.mp h) (piecesOf_ne_nil '/' s.toList)
  | cons first rest => exact ⟨first, rest, rfl⟩

theorem startsWith_slash {path : String} :
    startsWith "/" path = true ↔ path.toList.head? = some '/' := by
  show (['/'].isPrefixOf path.toList) = true ↔ _
  rcases path.toList with _ | ⟨c, cs⟩
  · simp
  · simp [@eq_comm _ '/' c]

/-- A text begins with a separator exactly if its first piece is empty, and it is not. -/
theorem startsWith_slash_iff {s first : String} {rest : List String} (hs : s ≠ "")
    (h : pieces '/' s = first :: rest) : startsWith "/" s = true ↔ first = "" := by
  obtain ⟨cs, css, hcs, rfl, -⟩ := List.map_eq_cons_iff.mp h
  have hchars : s.toList ≠ [] := mt String.toList_eq_nil_iff.mp hs
  have hhead : (piecesOf '/' s.toList).head? = some cs := by rw [hcs]; rfl
  calc startsWith "/" s = true ↔ s.toList.head? = some '/' := startsWith_slash
    _ ↔ s.toList = [] ∨ s.toList.head? = some '/' := (or_iff_right hchars).symm
    _ ↔ (piecesOf '/' s.toList).head? = some [] := head_piecesOf_eq_nil_iff.symm
    _ ↔ String.ofList cs = "" := by rw [hhead, Option.some.injEq, String.ofList_eq_empty_iff]

theorem exists_of_endsWith {ending s : String} (h : endsWith ending s = true) :
    ∃ start, s = start ++ ending := by
  obtain ⟨cs, hcs⟩ := List.isSuffixOf_iff_suffix.mp h
  exact ⟨String.ofList cs, String.toList_inj.mp (by simp [hcs])⟩

end Text
end LedStrip
