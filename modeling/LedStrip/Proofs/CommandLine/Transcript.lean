import Mathlib.Data.List.TakeWhile
import LedStrip.CommandLine.Headless

/-!
# Transcripts

What a headless run makes of the frames and errors that ticks come to.  The policy decides what it
shows of them (`TickPolicy.shown`); it prints a line for each, labelled with the number of frames
printed so far (`labelled`), and ends with the last frame that was wanted (`upTo`).  Where all of it
are frames, the labels just count them (`labelled_of_ok`).
-/

namespace LedStrip

/-- What a tick comes to. -/
abbrev Yield : Type := Except EffectError Frame

/-- The frames among what ticks come to. -/
def framesOf (ys : List Yield) : List Frame := ys.filterMap Except.toOption

/-- The errors among what ticks come to. -/
def errorsOf (ys : List Yield) : List EffectError :=
  ys.filterMap fun
    | .error e => some e
    | .ok _ => none

/-- The first error among what ticks come to. -/
def firstError? : List Yield → Option EffectError
  | [] => none
  | .ok _ :: rest => firstError? rest
  | .error e :: _ => some e

/-- What is shown of it: what comes before the first error, the frames, or all. -/
def TickPolicy.shown : TickPolicy → List Yield → List Yield
  | .halt, ys => ys.takeWhile (·.isOk)
  | .skipFrame, ys => ys.filter (·.isOk)
  | .propagate, ys => ys

namespace HeadlessRun

/-- What comes until as many frames have come as are wanted. -/
def upTo : Nat → List Yield → List Yield
  | 0, _ => []
  | _ + 1, [] => []
  | n + 1, .ok f :: rest => .ok f :: upTo n rest
  | n + 1, .error e :: rest => .error e :: upTo (n + 1) rest

/-- A line for each frame and each error, after some frames. -/
def labelled : Nat → List Yield → List String
  | _, [] => []
  | n, .ok f :: rest => numbered n f.toHex :: labelled (n + 1) rest
  | n, .error e :: rest => numbered n s!"error: {e.message}" :: labelled n rest

/-- Frames under their numbers. -/
def frameLines (fs : List Frame) : List String := fs.zipIdx.map fun p => numbered p.2 p.1.toHex

/-- What a run prints that wants some number of frames: the first of the frames before the first
error, the first of all frames, or also the errors between them. -/
def transcript (wanted : Nat) : TickPolicy → List Yield → List String
  | .halt, ys => frameLines ((framesOf (ys.takeWhile (·.isOk))).take wanted)
  | .skipFrame, ys => frameLines ((framesOf ys).take wanted)
  | .propagate, ys => labelled 0 (upTo wanted ys)

/-- How a run ends, if it does: with the last frame that was wanted, or halted by an error. -/
def result? (id : String) (wanted : Nat) (policy : TickPolicy) (ys : List Yield) :
    Option (Except String Unit) :=
  if wanted ≤ (framesOf (policy.shown ys)).length then some (.ok ())
  else
    match policy with
    | .halt => (firstError? ys).map fun e => .error s!"{id}: {e.message}"
    | _ => none

/-! ### Frames and errors -/

section Lists

variable {ys : List Yield} {f : Frame} {e : EffectError}

theorem framesOf_append (ys zs : List Yield) : framesOf (ys ++ zs) = framesOf ys ++ framesOf zs :=
  List.filterMap_append

theorem firstError?_of_ok (h : ∀ y ∈ ys, y.isOk = true) : firstError? ys = none := by
  induction ys with
  | nil => rfl
  | cons y rest ih =>
    obtain ⟨hy, hrest⟩ := List.forall_mem_cons.mp h
    cases y with
    | ok f => exact ih hrest
    | error e => cases hy

theorem firstError?_concat (h : ∀ y ∈ ys, y.isOk = true) (e : EffectError) :
    firstError? (ys ++ [.error e]) = some e := by
  induction ys with
  | nil => rfl
  | cons y rest ih =>
    obtain ⟨hy, hrest⟩ := List.forall_mem_cons.mp h
    cases y with
    | ok f => exact ih hrest
    | error e => cases hy

theorem length_shown_le (policy : TickPolicy) (ys : List Yield) :
    (policy.shown ys).length ≤ ys.length := by
  cases policy with
  | halt => exact (List.takeWhile_prefix _).length_le
  | skipFrame => exact List.length_filter_le _ _
  | propagate => exact Nat.le_refl _

/-- While errors do not halt, what one more tick comes to is shown or not for itself. -/
theorem shown_concat {policy : TickPolicy} (h : policy = .halt → ∀ y ∈ ys, y.isOk = true)
    (y : Yield) : policy.shown (ys ++ [y]) = policy.shown ys ++ policy.shown [y] := by
  cases policy with
  | halt =>
    have hall := h rfl
    have hself : ys.takeWhile (·.isOk) = ys := List.takeWhile_eq_self_iff.mpr hall
    show (ys ++ [y]).takeWhile _ = ys.takeWhile _ ++ [y].takeWhile _
    rw [List.takeWhile_append_of_pos hall, hself]
  | skipFrame => exact List.filter_append ys [y]
  | propagate => rfl

end Lists

/-- Where failing ticks are skipped, the frames are shown. -/
theorem framesOf_filter (ys : List Yield) : framesOf (ys.filter (·.isOk)) = framesOf ys := by
  induction ys with
  | nil => rfl
  | cons y rest ih =>
    cases y with
    | ok f => exact congrArg (f :: ·) ih
    | error e => exact ih

/-! ### Results -/

section Results

variable {id : String} {wanted : Nat} {policy : TickPolicy} {ys : List Yield}

theorem result?_of_enough (h : wanted ≤ (framesOf (policy.shown ys)).length) :
    result? id wanted policy ys = some (.ok ()) := by
  unfold result?
  exact if_pos h

theorem result?_of_error (hfewer : (framesOf (policy.shown ys)).length < wanted)
    (hhalt : policy = .halt) {e : EffectError} (he : firstError? ys = some e) :
    result? id wanted policy ys = some (.error s!"{id}: {e.message}") := by
  subst hhalt
  unfold result?
  rw [if_neg (by omega), he]
  rfl

/-- Nothing ends a run before it has the frames that are wanted, except an error that halts it. -/
theorem result?_of_fewer (hfewer : (framesOf (policy.shown ys)).length < wanted)
    (hok : policy = .halt → ∀ y ∈ ys, y.isOk = true) : result? id wanted policy ys = none := by
  unfold result?
  rw [if_neg (by omega)]
  cases policy with
  | halt =>
    dsimp only
    rw [firstError?_of_ok (hok rfl)]
    rfl
  | skipFrame | propagate => rfl

end Results

/-! ### As many as are wanted -/

section UpTo

variable {n : Nat} {ys : List Yield}

theorem upTo_zero (ys : List Yield) : upTo 0 ys = [] := by
  cases ys <;> rfl

theorem upTo_of_lt (h : (framesOf ys).length < n) : upTo n ys = ys := by
  induction ys generalizing n with
  | nil => cases n <;> rfl
  | cons y rest ih =>
    obtain ⟨n, rfl⟩ : ∃ k, n = k + 1 := ⟨n - 1, by omega⟩
    cases y with
    | ok f =>
      have hrest : (framesOf rest).length < n := Nat.lt_of_succ_lt_succ h
      rw [upTo, ih hrest]
    | error e => rw [upTo, ih h]

/-- Nothing comes after the last frame. -/
theorem upTo_concat (h : (framesOf ys).length + 1 = n) (f : Frame) :
    upTo n (ys ++ [.ok f]) = ys ++ [.ok f] := by
  induction ys generalizing n with
  | nil =>
    obtain rfl : 1 = n := h
    rfl
  | cons y rest ih =>
    subst h
    cases y with
    | ok g => exact congrArg (Except.ok g :: ·) (ih rfl)
    | error e => exact congrArg (Except.error e :: ·) (ih rfl)

/-- The frames are those that were wanted. -/
theorem framesOf_upTo (n : Nat) (ys : List Yield) : framesOf (upTo n ys) = (framesOf ys).take n := by
  induction ys generalizing n with
  | nil => cases n <;> simp [upTo, framesOf]
  | cons y rest ih =>
    cases n with
    | zero => simp [upTo, framesOf]
    | succ n =>
      cases y with
      | ok f => exact congrArg (f :: ·) (ih n)
      | error e => exact ih (n + 1)

theorem upTo_ok (h : ∀ y ∈ ys, y.isOk = true) : ∀ y ∈ upTo n ys, y.isOk = true := by
  induction ys generalizing n with
  | nil => cases n <;> exact h
  | cons y rest ih =>
    obtain ⟨hy, hrest⟩ := List.forall_mem_cons.mp h
    cases n with
    | zero => exact fun _ hmem => absurd hmem List.not_mem_nil
    | succ n =>
      cases y with
      | ok f => exact List.forall_mem_cons.mpr ⟨rfl, ih hrest⟩
      | error e => cases hy

end UpTo

/-! ### Lines -/

theorem labelled_append (n : Nat) (ys zs : List Yield) :
    labelled n (ys ++ zs) = labelled n ys ++ labelled (n + (framesOf ys).length) zs := by
  induction ys generalizing n with
  | nil => rfl
  | cons y rest ih =>
    cases y with
    | ok f =>
      have hcount : n + (framesOf (.ok f :: rest)).length = n + 1 + (framesOf rest).length := by
        show n + ((framesOf rest).length + 1) = _
        omega
      rw [hcount]
      exact congrArg (numbered n f.toHex :: ·) (ih (n + 1))
    | error e => exact congrArg (numbered n s!"error: {e.message}" :: ·) (ih n)

/-- Where no tick fails, the lines are the frames under their numbers. -/
theorem labelled_of_ok {ys : List Yield} (h : ∀ y ∈ ys, y.isOk = true) :
    labelled 0 ys = frameLines (framesOf ys) := by
  suffices hfrom : ∀ n, labelled n ys =
      ((framesOf ys).zipIdx n).map fun p => numbered p.2 p.1.toHex from hfrom 0
  induction ys with
  | nil => exact fun n => rfl
  | cons y rest ih =>
    obtain ⟨hy, hrest⟩ := List.forall_mem_cons.mp h
    intro n
    cases y with
    | ok f => exact congrArg (numbered n f.toHex :: ·) (ih hrest (n + 1))
    | error e => cases hy

/-- The transcript has a line for all that is shown, up to the last frame that is wanted. -/
theorem labelled_upTo_shown (policy : TickPolicy) (wanted : Nat) (ys : List Yield) :
    labelled 0 (upTo wanted (policy.shown ys)) = transcript wanted policy ys := by
  have ok_lines {zs : List Yield} (h : ∀ z ∈ zs, z.isOk = true) :
      labelled 0 (upTo wanted zs) = frameLines ((framesOf zs).take wanted) := by
    rw [labelled_of_ok (upTo_ok h), framesOf_upTo]
  cases policy with
  | halt => exact ok_lines fun z hz => List.mem_takeWhile_imp hz
  | skipFrame =>
    have hlines := ok_lines fun z (hz : z ∈ ys.filter (·.isOk)) => (List.mem_filter.mp hz).2
    rw [framesOf_filter] at hlines
    exact hlines
  | propagate => rfl

end HeadlessRun
end LedStrip
