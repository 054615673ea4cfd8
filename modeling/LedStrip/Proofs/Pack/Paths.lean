import LedStrip.Pack.Files
import LedStrip.Proofs.Text.Pieces

/-!
# Paths of resources

A resource name is resolved below a directory by its parts.  `LeadsDown` says which names are
resolved, and `LeadsDown.pathParts_joinPath` what joining does to parts: it appends them.

An id that is valid is one part, whatever dots it has, so that the name of a file of an effect has
two.  Its pieces are those two, and tell it from every other (`EffectFile.resource_injective`).
-/

namespace LedStrip

/-! ### Parts -/

namespace PathPart

/-- A step of a path that leads somewhere. -/
def ofStep (s : String) : PathPart := if s = ".." then .up else .name s

end PathPart

/-- The names among some steps: no step is empty, and none stays here. -/
def namesAmong (steps : List String) : List String := steps.filter fun s => s ≠ "" && s ≠ "."

theorem namesAmong_append (xs ys : List String) :
    namesAmong (xs ++ ys) = namesAmong xs ++ namesAmong ys := List.filter_append xs ys

/-- The parts of a path behind its first piece. -/
def partsOf (steps : List String) : List PathPart := (namesAmong steps).map PathPart.ofStep

theorem partsOf_append (xs ys : List String) : partsOf (xs ++ ys) = partsOf xs ++ partsOf ys := by
  rw [partsOf, namesAmong_append, List.map_append]
  rfl

/-- The part that a path begins with. -/
def headParts (path first : String) : List PathPart :=
  if path = "" then [] else if first = "" then [.root] else if first = "." then [.here]
  else [.ofStep first]

theorem pathParts_of_pieces {path first : String} {rest : List String}
    (h : Text.pieces '/' path = first :: rest) :
    pathParts path = headParts path first ++ partsOf rest := by
  unfold pathParts headParts partsOf namesAmong
  dsimp only
  rw [h]
  split
  · next heq =>
    obtain ⟨rfl, rfl⟩ := List.cons.inj heq
    rw [if_pos rfl]
    rfl
  · next heq =>
    obtain ⟨rfl, rfl⟩ := List.cons.inj heq
    have hne : path ≠ "" := by
      rintro rfl
      exact absurd (List.cons.inj h).1 (by decide)
    rw [if_neg hne]
    rfl
  · next hroot hhere =>
    have hfirst : first ≠ "" := fun h0 => hroot rest (h0 ▸ rfl)
    have hdot : first ≠ "." := fun h0 => hhere rest (h0 ▸ rfl)
    have hne : path ≠ "" := by
      rintro rfl
      exact hfirst (List.cons.inj h).1.symm
    rw [if_neg hne, if_neg hfirst, if_neg hdot, List.filter_cons_of_pos (by simp [hfirst, hdot])]
    rfl

theorem pathParts_append_slash (dir path : String) :
    pathParts (dir ++ "/" ++ path) = pathParts (dir ++ "/") ++ partsOf (Text.pieces '/' path) := by
  obtain ⟨first, rest, hdir⟩ := Text.exists_pieces_eq dir
  have hpath : Text.pieces '/' (dir ++ "/" ++ path) = first :: (rest ++ Text.pieces '/' path) := by
    rw [Text.pieces_append, hdir, List.cons_append]
  have hslash : Text.pieces '/' (dir ++ "/") = first :: (rest ++ [""]) := by
    rw [Text.pieces_slash, hdir, List.cons_append]
  have hhead : headParts (dir ++ "/" ++ path) first = headParts (dir ++ "/") first := by
    simp [headParts]
  rw [pathParts_of_pieces hpath, pathParts_of_pieces hslash, hhead, partsOf_append, partsOf_append,
    List.append_assoc, List.append_assoc]
  rfl

/-- A separator at the end adds no part. -/
theorem pathParts_slash {dir : String} (h : dir ≠ "") : pathParts (dir ++ "/") = pathParts dir := by
  obtain ⟨first, rest, hdir⟩ := Text.exists_pieces_eq dir
  have hslash : Text.pieces '/' (dir ++ "/") = first :: (rest ++ [""]) := by
    rw [Text.pieces_slash, hdir, List.cons_append]
  have hhead : headParts (dir ++ "/") first = headParts dir first := by simp [headParts, h]
  rw [pathParts_of_pieces hslash, pathParts_of_pieces hdir, hhead, partsOf_append]
  exact congrArg _ (List.append_nil _)

/-! ### Joined paths -/

/-- A resource name that leads down only. -/
structure LeadsDown (resource : String) : Prop where
  ne_empty : resource ≠ ""
  relative : Text.startsWith "/" resource = false
  head_ne_here : (Text.pieces '/' resource).head? ≠ some "."
  no_up : ".." ∉ Text.pieces '/' resource

/-- The names in a resource name. -/
def namesOf (resource : String) : List String := namesAmong (Text.pieces '/' resource)

section Joined

variable {root resource : String}

theorem partsOf_eq_names {steps : List String} (h : ".." ∉ steps) :
    partsOf steps = (namesAmong steps).map .name := by
  refine List.map_congr_left fun s hs => ?_
  have hup : s ≠ ".." := ne_of_mem_of_not_mem (List.mem_filter.mp hs).1 h
  exact if_neg hup

namespace LeadsDown

/-- The first piece of a name that leads down is a name. -/
theorem head_ne {first : String} {rest : List String} (h : LeadsDown resource)
    (hpieces : Text.pieces '/' resource = first :: rest) : first ≠ "" ∧ first ≠ "." := by
  refine ⟨fun hfirst => ?_, fun hfirst => h.head_ne_here (by rw [hpieces, hfirst]; rfl)⟩
  have := (Text.startsWith_slash_iff h.ne_empty hpieces).mpr hfirst
  rw [h.relative] at this
  cases this

theorem pathParts_eq (h : LeadsDown resource) : pathParts resource = (namesOf resource).map .name := by
  obtain ⟨first, rest, hpieces⟩ := Text.exists_pieces_eq resource
  obtain ⟨hfirst, hhere⟩ := h.head_ne hpieces
  have hhead : headParts resource first = partsOf [first] := by
    simp [headParts, partsOf, namesAmong, h.ne_empty, hfirst, hhere]
  rw [pathParts_of_pieces hpieces, hhead, ← partsOf_append, List.singleton_append, ← hpieces,
    partsOf_eq_names h.no_up]
  rfl

theorem namesOf_ne_nil (h : LeadsDown resource) : namesOf resource ≠ [] := by
  obtain ⟨first, rest, hpieces⟩ := Text.exists_pieces_eq resource
  obtain ⟨hfirst, hhere⟩ := h.head_ne hpieces
  rw [namesOf, hpieces, namesAmong, List.filter_cons_of_pos (by simp [hfirst, hhere])]
  exact List.cons_ne_nil _ _

/-- A name of one step, and no way out of a folder. -/
theorem name_of_mem {s : String} (h : LeadsDown resource) (hs : s ∈ namesOf resource) :
    s ≠ "" ∧ s ≠ "." ∧ s ≠ ".." ∧ '/' ∉ s.toList := by
  obtain ⟨hpiece, hname⟩ := List.mem_filter.mp hs
  obtain ⟨hne, hhere⟩ : s ≠ "" ∧ s ≠ "." := by simpa using hname
  exact ⟨hne, hhere, ne_of_mem_of_not_mem hpiece h.no_up, Text.not_mem_of_mem_pieces hpiece⟩

theorem pathParts_joinPath (h : LeadsDown resource) (root : String) :
    pathParts (joinPath root resource) = pathParts root ++ (namesOf resource).map .name := by
  have hparts : partsOf (Text.pieces '/' resource) = (namesOf resource).map .name :=
    partsOf_eq_names h.no_up
  by_cases hroot : root = ""
  · rw [joinPath, if_pos (by simp [hroot]), h.pathParts_eq, hroot]
    rfl
  rw [joinPath, if_neg (by simp [h.relative, hroot])]
  split
  · next hend =>
    -- The separator is there already.
    obtain ⟨dir, hdir⟩ := Text.exists_of_endsWith hend
    rw [hdir, pathParts_append_slash, hparts]
  · rw [pathParts_append_slash, pathParts_slash hroot, hparts]

theorem resolveIn_eq (h : LeadsDown resource) (root : String) :
    resolveIn root resource = .ok (joinPath root resource) := by
  rw [resolveIn, if_pos]
  simp [h.ne_empty, h.pathParts_eq]

/-- Taking the steps of a path goes through the directory first, and never back. -/
theorem names_joinPath (h : LeadsDown resource) (root : String) :
    FileTree.names (joinPath root resource) = FileTree.names root ++ namesOf resource := by
  rw [FileTree.names, h.pathParts_joinPath, List.foldl_append, List.foldl_map, FileTree.names,
    List.foldl_append_eq_append, ← List.flatMap_def, List.flatMap_singleton']

end LeadsDown

theorem leadsDown_of_parts (hne : resource ≠ "")
    (hall : ∀ p ∈ pathParts resource, ∃ s, p = .name s) : LeadsDown resource := by
  obtain ⟨first, rest, hpieces⟩ := Text.exists_pieces_eq resource
  rw [pathParts_of_pieces hpieces] at hall
  have hhead : ∀ p ∈ headParts resource first, ∃ s, p = .name s := fun p hp =>
    hall p (List.mem_append_left _ hp)
  have hfirst : first ≠ "" := by
    rintro rfl
    obtain ⟨s, hs⟩ := hhead .root (by simp [headParts, hne])
    cases hs
  have hhere : first ≠ "." := by
    rintro rfl
    obtain ⟨s, hs⟩ := hhead .here (by simp [headParts, hne])
    cases hs
  have hheadUp : first ≠ ".." := by
    rintro rfl
    obtain ⟨s, hs⟩ := hhead .up (by simp [headParts, hne, PathPart.ofStep])
    cases hs
  have hrestUp : ".." ∉ rest := fun hmem => by
    have hname : ".." ∈ namesAmong rest := List.mem_filter.mpr ⟨hmem, by decide⟩
    obtain ⟨s, hs⟩ := hall .up (List.mem_append_right _ (List.mem_map.mpr ⟨_, hname, rfl⟩))
    cases hs
  exact {
    ne_empty := hne
    relative := Bool.eq_false_iff.mpr fun h => hfirst ((Text.startsWith_slash_iff hne hpieces).mp h)
    head_ne_here := by
      rw [hpieces]
      exact fun h => hhere (Option.some.inj h)
    no_up := by
      rw [hpieces]
      exact not_or.mpr ⟨hheadUp.symm, hrestUp⟩ ∘ List.mem_cons.mp }

theorem leadsDown_of_resolveIn {path : String} (h : resolveIn root resource = .ok path) :
    LeadsDown resource ∧ path = joinPath root resource := by
  rw [resolveIn] at h
  split at h
  case isFalse => cases h
  next hplain =>
    obtain ⟨hne, hall⟩ := Bool.and_eq_true_iff.mp hplain
    refine ⟨leadsDown_of_parts (of_decide_eq_true hne) fun p hp => ?_, (Except.ok.inj h).symm⟩
    have hp := List.all_eq_true.mp hall p hp
    cases p with
    | name s => exact ⟨s, rfl⟩
    | _ => cases hp

end Joined

/-! ### Files of an effect -/

/-- What a pack has to say about one effect. -/
inductive EffectFile where
  | about
  | logic
  | panelSpec
  | panelScript
deriving DecidableEq, Repr

namespace EffectFile

def fileName : EffectFile → String
  | about => "meta.json"
  | logic => "logic.rhai"
  | panelSpec => "ui.json"
  | panelScript => "ui.rhai"

/-- The name of the file in the pack. -/
def resource : EffectFile → String → String
  | about => Resource.about
  | logic => Resource.logic
  | panelSpec => Resource.panelSpec
  | panelScript => Resource.panelScript

theorem fileName_injective {file file' : EffectFile} (h : file.fileName = file'.fileName) :
    file = file' := by
  cases file <;> cases file' <;> first | rfl | exact absurd h (by decide)

theorem resource_eq (file : EffectFile) (id : String) :
    file.resource id = id ++ "/" ++ file.fileName := by
  have hslash (t : String) : id ++ "/" ++ t = id ++ ("/" ++ t) := String.append_assoc
  cases file <;> exact ((hslash _).trans (congrArg (id ++ ·) (by decide))).symm

end EffectFile

theorem isIdChar_slash : isIdChar '/' = false := by decide

theorem isValidId_of_validateId {id : String} (h : validateId id = .ok ()) : isValidId id = true := by
  rw [validateId] at h
  split at h
  · assumption
  · cases h

theorem slash_not_mem_of_isValidId {id : String} (h : isValidId id = true) : '/' ∉ id.toList :=
  fun hmem => by
    have hchar := List.all_eq_true.mp (Bool.and_eq_true_iff.mp h).2 '/' hmem
    rw [isIdChar_slash] at hchar
    cases hchar

namespace EffectFile

variable {id id' : String} {file file' : EffectFile}

theorem pieces_resource (h : isValidId id = true) (file : EffectFile) :
    Text.pieces '/' (file.resource id) = [id, file.fileName] := by
  have hname : '/' ∉ file.fileName.toList := by cases file <;> decide
  rw [resource_eq, Text.pieces_append, Text.pieces_of_not_mem (slash_not_mem_of_isValidId h),
    Text.pieces_of_not_mem hname]
  rfl

/-- A valid id is a name, whatever dots it has. -/
theorem id_ne_of_isValidId (h : isValidId id = true) : id ≠ "" ∧ id ≠ "." ∧ id ≠ ".." := by
  simp only [isValidId, Bool.and_eq_true, bne_iff_ne] at h
  exact ⟨h.1.1.1, h.1.1.2, h.1.2⟩

theorem fileName_ne (file : EffectFile) :
    file.fileName ≠ "" ∧ file.fileName ≠ "." ∧ file.fileName ≠ ".." := by
  cases file <;> decide

theorem leadsDown_resource (h : isValidId id = true) (file : EffectFile) :
    LeadsDown (file.resource id) := by
  obtain ⟨hne, hhere, hup⟩ := id_ne_of_isValidId h
  have hpieces := pieces_resource h file
  have hres : file.resource id ≠ "" := by
    rw [resource_eq]
    simp
  exact {
    ne_empty := hres
    relative := Bool.eq_false_iff.mpr fun h => hne ((Text.startsWith_slash_iff hres hpieces).mp h)
    head_ne_here := by simpa [hpieces] using hhere
    no_up := by simpa [hpieces] using ⟨hup.symm, (fileName_ne file).2.2.symm⟩ }

theorem namesOf_resource (h : isValidId id = true) (file : EffectFile) :
    namesOf (file.resource id) = [id, file.fileName] := by
  obtain ⟨hne, hhere, -⟩ := id_ne_of_isValidId h
  obtain ⟨hne', hhere', -⟩ := fileName_ne file
  simp [namesOf, namesAmong, pieces_resource h, hne, hhere, hne', hhere']

theorem resource_injective (h : isValidId id = true) (h' : isValidId id' = true)
    (heq : file.resource id = file'.resource id') : id = id' ∧ file = file' := by
  have hpieces := congrArg (Text.pieces '/') heq
  rw [pieces_resource h, pieces_resource h'] at hpieces
  obtain ⟨rfl, hrest⟩ := List.cons.inj hpieces
  exact ⟨rfl, fileName_injective (List.cons.inj hrest).1⟩

/-- A file of an effect is in a folder, so it is none of what a pack has at its top. -/
theorem resource_ne_of_not_mem {top : String} (h : isValidId id = true) (file : EffectFile)
    (htop : '/' ∉ top.toList) : file.resource id ≠ top := by
  rintro rfl
  have hpieces := (pieces_resource h file).symm.trans (Text.pieces_of_not_mem htop)
  cases (List.cons.inj hpieces).2

end EffectFile

/-- Names of a pack resolve to places below its directory: the files of effects that have valid ids
each to its own, and any other name only by steps down. -/
theorem resources_stay_below (root : String) :
    (∀ id, validateId id = .ok () → ∀ file : EffectFile,
      (∃ path, resolveIn root (file.resource id) = .ok path ∧
        pathParts path = pathParts root ++ [.name id, .name file.fileName]) ∧
      (∀ id' file', validateId id' = .ok () → file'.resource id' = file.resource id →
        id' = id ∧ file' = file) ∧
      file.resource id ≠ Resource.manifest ∧ file.resource id ≠ Resource.runtime) ∧
    ∀ resource, ((∃ path, resolveIn root resource = .ok path) ↔ LeadsDown resource) ∧
      ∀ path, resolveIn root resource = .ok path → ∃ names, names ≠ [] ∧
        (∀ s ∈ names, s ≠ "" ∧ s ≠ "." ∧ s ≠ ".." ∧ '/' ∉ s.toList) ∧
        pathParts path = pathParts root ++ names.map .name ∧
        FileTree.names path = FileTree.names root ++ names := by
  refine ⟨fun id hid file => ?_, fun resource => ⟨?_, fun path hpath => ?_⟩⟩
  · have hvalid := isValidId_of_validateId hid
    have hdown := EffectFile.leadsDown_resource hvalid file
    refine ⟨⟨_, hdown.resolveIn_eq root, ?_⟩, fun id' file' hid' heq => ?_,
      EffectFile.resource_ne_of_not_mem hvalid file (by decide),
      EffectFile.resource_ne_of_not_mem hvalid file (by decide)⟩
    · rw [hdown.pathParts_joinPath, EffectFile.namesOf_resource hvalid]
      rfl
    · exact EffectFile.resource_injective (isValidId_of_validateId hid') hvalid heq
  · exact ⟨fun ⟨_, hpath⟩ => (leadsDown_of_resolveIn hpath).1, fun h => ⟨_, h.resolveIn_eq root⟩⟩
  · obtain ⟨hdown, rfl⟩ := leadsDown_of_resolveIn hpath
    exact ⟨namesOf resource, hdown.namesOf_ne_nil, fun s hs => hdown.name_of_mem hs,
      hdown.pathParts_joinPath root, hdown.names_joinPath root⟩

/-- Three dots are a folder like any other. -/
theorem three_dots_name_a_folder :
    validateId "..." = .ok () ∧ ∃ path, resolveIn "packs/" (Resource.logic "...") = .ok path ∧
      pathParts path = [.name "packs", .name "...", .name "logic.rhai"] := by
  have hid : validateId "..." = .ok () := by decide
  exact ⟨hid, ((resources_stay_below "packs/").1 "..." hid .logic).1⟩

end LedStrip
