import Mathlib.Data.List.Induction
import LedStrip.Effect.Chase
import LedStrip.Proofs.Panel.Bridge

/-!
# Edits and the calls they make

An edit sets one key of the state (`PanelState.Sets`) and makes at most one call on the machine.
`Bridge.Routes` says which call, from the key, the value and the state after the edit.  The calls on
a machine of any kind can be recorded (`Recorded`), so that their number is a fact about what the
machine was asked; a refusal of the machine is the answer of the edit, and the state is the new one
all the same (`edits_reach_machine`).
-/

namespace LedStrip

/-! ### One key of the state -/

namespace PanelState

variable {R : Type}

/-- A newer record with a value under one key of the effect, and all else as it was. -/
structure Sets (s : PanelState R) (key : String) (v : Json R) (t : PanelState R) : Prop where
  newer : s.revision < t.revision
  isObject : t.value = .obj t.members
  effectIsObject : Entries.get? effectNamespace t.members = some (.obj t.effectMembers)
  holds : Entries.get? key t.effectMembers = some v
  keeps : ∀ other, other ≠ key →
    Entries.get? other t.effectMembers = Entries.get? other s.effectMembers
  outside : ∀ name, name ≠ effectNamespace →
    Entries.get? name t.members = Entries.get? name s.members

theorem sets_withEffectValue (s : PanelState R) (key : String) (v : Json R) :
    s.Sets key v (s.withEffectValue key v) where
  newer := Nat.lt_succ_self _
  isObject := rfl
  effectIsObject := by
    rw [effectMembers_withEffectValue, members_withEffectValue, Entries.get?_insert_self]
  holds := by rw [effectMembers_withEffectValue, Entries.get?_insert_self]
  keeps other h := by rw [effectMembers_withEffectValue, Entries.get?_insert_of_ne h]
  outside name h := by rw [members_withEffectValue, Entries.get?_insert_of_ne h]

end PanelState

/-! ### Calls on a machine -/

/-- A call on a machine. -/
inductive MachineCall (R : Type) where
  | changeSpeed (ms : R)
  | setConfig (key : String) (v : Json R)

namespace MachineCall

variable {R κ : Type}

/-- The key that a call is about. -/
def key : MachineCall R → String
  | changeSpeed _ => "speed"
  | setConfig key _ => key

/-- What a machine answers, and the machine after that. -/
def on [MachineControl R κ] (c : κ) : MachineCall R → Except EffectError Unit × κ
  | changeSpeed ms => MachineControl.changeSpeed c ms
  | setConfig key v => MachineControl.setConfig c key v

end MachineCall

/-- The call that an action tells of. -/
def EditAction.call? {R : Type} [Scalar R] : EditAction R → Option (MachineCall R)
  | ignored => none
  | speed ms => some (.changeSpeed ms)
  | color c => some (.setConfig "color" c.toJson)
  | config key v => some (.setConfig key v)

/-- A machine and the calls that were made on it, in order. -/
structure Recorded (R κ : Type) where
  machine : κ
  calls : List (MachineCall R) := []

namespace Recorded

variable {R κ : Type} [MachineControl R κ]

/-- Note a call and pass it on. -/
def take (w : Recorded R κ) (call : MachineCall R) : Except EffectError Unit × Recorded R κ :=
  ((call.on w.machine).1, ⟨(call.on w.machine).2, w.calls ++ [call]⟩)

instance : MachineControl R (Recorded R κ) where
  changeSpeed w ms := w.take (.changeSpeed ms)
  setConfig w key v := w.take (.setConfig key v)

theorem on_recorded (w : Recorded R κ) (call : MachineCall R) : call.on w = w.take call := by
  cases call <;> rfl

/-- The answer to an edit to a value, given the call that it makes, and the machine and its record
after it.  Without a call the value was no number; an error of the machine is passed on as it is. -/
inductive Takes [Scalar R] (w : Recorded R κ) (v : Json R) :
    Option (MachineCall R) → Except EffectError (EditAction R) → Recorded R κ → Prop
  | silent : Takes w v none
      (.error (.invalidValue "speed" ("expected a number, got " ++ v.text))) w
  | refused {call : MachineCall R} {e : EffectError} {machine : κ} :
      call.on w.machine = (.error e, machine) →
      Takes w v (some call) (.error e) ⟨machine, w.calls ++ [call]⟩
  | taken {call : MachineCall R} {action : EditAction R} {machine : κ} :
      call.on w.machine = (.ok (), machine) → action.call? = some call →
      Takes w v (some call) (.ok action) ⟨machine, w.calls ++ [call]⟩

theorem takes_of_call [Scalar R] (w : Recorded R κ) (v : Json R) (action : EditAction R)
    {call : MachineCall R} (h : action.call? = some call) :
    w.Takes v (some call) ((call.on w).1.map fun _ => action) (call.on w).2 := by
  rw [on_recorded]
  unfold take
  rcases hon : call.on w.machine with ⟨_ | _, machine⟩
  · exact .refused hon
  · exact .taken hon h

/-- One call at most is added to those that were made before. -/
theorem Takes.calls_eq [Scalar R] {w w' : Recorded R κ} {v : Json R} {call? : Option (MachineCall R)}
    {answer : Except EffectError (EditAction R)} (h : w.Takes v call? answer w') :
    w'.calls = w.calls ++ call?.toList := by
  cases h with
  | silent => exact (List.append_nil _).symm
  | refused _ | taken _ _ => rfl

end Recorded

/-! ### One edit -/

namespace Bridge

variable {R κ : Type} [Scalar R]

theorem keyOf?_eq_none {path : String}
    (h : (segments path).length < 2 ∨ (segments path).head? ≠ some effectNamespace) :
    keyOf? path = none := by
  refine Option.eq_none_iff_forall_ne_some.mpr fun key hkey => ?_
  obtain ⟨rest, hrest⟩ := keyOf?_eq_some_iff.mp hkey
  rw [hrest] at h
  rcases h with hshort | hhead
  · simp only [List.length_cons] at hshort
    omega
  · exact hhead rfl

/-- A value that is a finite number. -/
def IsNumber (v : Json R) (x : R) : Prop := v.asNumber? = some x ∧ Scalar.isFinite x = true

/-- The product that goes to the machine in place of a number whose key has a factor. -/
def HasProduct (config : BridgeConfig R) (key : String) (v : Json R) (product : R) : Prop :=
  ∃ scale factor x, Entries.get? key config.scaleKeys = some scale ∧
    scale.asNumber? = some factor ∧ v.asNumber? = some x ∧ product = x * factor ∧
    Scalar.isFinite product = true

/-- The call that an edit of a key makes, where `s` is the state after the edit. -/
inductive Routes (config : BridgeConfig R) (s : PanelState R) (key : String) (v : Json R) :
    Option (MachineCall R) → Prop
  | interval {ms : R} : key = "speed" → IsNumber v ms → Routes config s key v (some (.changeSpeed ms))
  | noNumber : key = "speed" → (∀ ms, ¬ IsNumber v ms) → Routes config s key v none
  | color : key ≠ "speed" → key ∈ config.colorKeys →
      Routes config s key v (some (.setConfig "color" (shownColor s).toJson))
  | scaled {product : R} : key ≠ "speed" → key ∉ config.colorKeys →
      HasProduct config key v product → Routes config s key v (some (.setConfig key (.float product)))
  | plain : key ≠ "speed" → key ∉ config.colorKeys → (∀ product, ¬ HasProduct config key v product) →
      Routes config s key v (some (.setConfig key v))

/-- The value of a key on its way to the machine. -/
theorem scaled_cases (config : BridgeConfig R) (key : String) (v : Json R) :
    (∃ product, HasProduct config key v product ∧ scaled config key v = .float product) ∨
      (∀ product, ¬ HasProduct config key v product) ∧ scaled config key v = v := by
  unfold scaled
  split
  · next factor x hfactor hx =>
    obtain ⟨scale, hscale, hfactor⟩ := Option.bind_eq_some_iff.mp hfactor
    split
    · next hfinite => exact .inl ⟨_, ⟨scale, factor, x, hscale, hfactor, hx, rfl, hfinite⟩, rfl⟩
    · next hfinite =>
      refine .inr ⟨?_, rfl⟩
      rintro product ⟨scale', factor', x', hscale', hfactor', hx', rfl, hproduct⟩
      cases hscale.symm.trans hscale'
      cases hfactor.symm.trans hfactor'
      cases hx.symm.trans hx'
      exact hfinite hproduct
  · next hno =>
    refine .inr ⟨?_, rfl⟩
    rintro product ⟨scale, factor, x, hscale, hfactor, hx, -⟩
    exact hno factor x (Option.bind_eq_some_iff.mpr ⟨scale, hscale, hfactor⟩) hx

variable [MachineControl R κ]

/-- Recording makes no difference to the machine, nor to the answer of an edit. -/
theorem apply_recorded (b : Bridge R) (w : Recorded R κ) (path : String) (v : Json R) :
    b.apply w.machine path v =
      ((b.apply w path v).1, (b.apply w path v).2.1, (b.apply w path v).2.2.machine) := by
  have hcall (key : String) : (b.writeBack key v).call w.machine key v =
      (((b.writeBack key v).call w key v).1, ((b.writeBack key v).call w key v).2.machine) := by
    unfold call
    split
    · cases finiteNumber key v <;> rfl
    · split <;> rfl
  rcases hkey : keyOf? path with _ | key
  · rw [apply_of_ignored b w v hkey, apply_of_ignored b w.machine v hkey]
  · rw [apply_of_key b w v hkey, apply_of_key b w.machine v hkey, hcall]

/-- **An edit of a key makes the call that its key asks for**, and no other. -/
theorem call_routes (b : Bridge R) (w : Recorded R κ) (key : String) (v : Json R) :
    ∃ call?, Routes b.config b.state key v call? ∧
      w.Takes v call? (b.call w key v).1 (b.call w key v).2 := by
  by_cases hspeed : key = "speed"
  · subst hspeed
    unfold call finiteNumber
    rw [if_pos rfl]
    cases hv : v.asNumber?.filter Scalar.isFinite with
    | none =>
      refine ⟨none, .noNumber rfl fun ms ⟨hnumber, hfinite⟩ => ?_, .silent⟩
      rw [hnumber, Option.filter_some_pos hfinite] at hv
      cases hv
    | some ms =>
      have hnumber : IsNumber v ms := Option.filter_eq_some_iff.mp hv
      exact ⟨_, .interval rfl hnumber, w.takes_of_call v (.speed ms) rfl⟩
  by_cases hcolor : key ∈ b.config.colorKeys
  · rw [call_color b w v hspeed hcolor]
    exact ⟨_, .color hspeed hcolor, w.takes_of_call v (.color (shownColor b.state)) rfl⟩
  · rw [call_config b w v hspeed hcolor]
    obtain ⟨product, hproduct, hsent⟩ | ⟨hno, hsent⟩ := scaled_cases b.config key v
    · rw [hsent]
      exact ⟨_, .scaled hspeed hcolor hproduct, w.takes_of_call v (.config key _) rfl⟩
    · rw [hsent]
      exact ⟨_, .plain hspeed hcolor hno, w.takes_of_call v (.config key v) rfl⟩

/-! ### Runs -/

/-- A bridge and a machine after some edits, in order. -/
def applyAll (b : Bridge R) (c : κ) (edits : List (String × Json R)) : Bridge R × κ :=
  edits.foldl (fun p e => (p.1.apply p.2 e.1 e.2).2) (b, c)

theorem applyAll_concat (b : Bridge R) (c : κ) (edits : List (String × Json R))
    (e : String × Json R) :
    b.applyAll c (edits ++ [e]) =
      ((b.applyAll c edits).1.apply (b.applyAll c edits).2 e.1 e.2).2 := by
  unfold applyAll
  rw [List.foldl_append]
  rfl

omit [Scalar R] [MachineControl R κ] in
/-- The value of the last edit of a key. -/
def lastValue? (key : String) (edits : List (String × Json R)) : Option (Json R) :=
  (edits.reverse.find? fun e => keyOf? e.1 = some key).map Prod.snd

omit [Scalar R] [MachineControl R κ] in
theorem lastValue?_concat (key : String) (edits : List (String × Json R)) (e : String × Json R) :
    lastValue? key (edits ++ [e]) =
      if keyOf? e.1 = some key then some e.2 else lastValue? key edits := by
  unfold lastValue?
  rw [List.reverse_append, List.reverse_singleton, List.singleton_append, List.find?_cons]
  by_cases h : keyOf? e.1 = some key <;> simp [h]

/-- The key that the machine is called with for an edit, if it is called. -/
def calledKey? (config : BridgeConfig R) (e : String × Json R) : Option String :=
  (keyOf? e.1).bind fun key =>
    if key = "speed" then (e.2.asNumber?.filter Scalar.isFinite).map fun _ => "speed"
    else if key ∈ config.colorKeys then some "color"
    else some key

theorem Routes.key_eq {config : BridgeConfig R} {s : PanelState R} {path key : String} {v : Json R}
    {call? : Option (MachineCall R)} (h : Routes config s key v call?)
    (hkey : keyOf? path = some key) :
    (call?.map MachineCall.key) = calledKey? config (path, v) := by
  unfold calledKey?
  rw [hkey, Option.bind_some]
  cases h with
  | interval hspeed hnumber =>
    rw [if_pos hspeed, hnumber.1, Option.filter_some_pos hnumber.2]
    rfl
  | noNumber hspeed hno =>
    have hnone : v.asNumber?.filter Scalar.isFinite = none :=
      Option.eq_none_iff_forall_ne_some.mpr fun ms hms => hno ms (Option.filter_eq_some_iff.mp hms)
    rw [if_pos hspeed, hnone]
    rfl
  | color hspeed hcolor =>
    rw [if_neg hspeed, if_pos hcolor]
    rfl
  | scaled hspeed hcolor _ | plain hspeed hcolor _ =>
    rw [if_neg hspeed, if_neg hcolor]
    rfl

/-- **What a run of edits comes to**: every key of the effect holds the value of its last edit, all
else is as it was, and the machine was called once for each edit that calls it, in order. -/
structure Ran (b : Bridge R) (w : Recorded R κ) (edits : List (String × Json R)) (b' : Bridge R)
    (w' : Recorded R κ) : Prop where
  config_eq : b'.config = b.config
  values : ∀ key, Entries.get? key b'.state.effectMembers =
    (lastValue? key edits).or (Entries.get? key b.state.effectMembers)
  outside : ∀ name, name ≠ effectNamespace →
    Entries.get? name b'.state.members = Entries.get? name b.state.members
  calls : ∃ calls, w'.calls = w.calls ++ calls ∧
    calls.map MachineCall.key = edits.filterMap (calledKey? b.config)

theorem ran_applyAll (b : Bridge R) (w : Recorded R κ) (edits : List (String × Json R)) :
    Ran b w edits (b.applyAll w edits).1 (b.applyAll w edits).2 := by
  induction edits using List.reverseRecOn with
  | nil => exact ⟨rfl, fun _ => rfl, fun _ _ => rfl, [], (List.append_nil _).symm, rfl⟩
  | append_singleton edits e ih =>
    obtain ⟨path, v⟩ := e
    rw [applyAll_concat]
    generalize b.applyAll w edits = reached at ih ⊢
    obtain ⟨b', w'⟩ := reached
    obtain ⟨hconfig, hvalues, houtside, calls, hcalls, hkeys⟩ := ih
    dsimp only at hconfig hvalues houtside hcalls ⊢
    rcases hkey : keyOf? path with _ | key
    · -- the run ends where it was
      rw [apply_of_ignored b' w' v hkey]
      refine ⟨hconfig, fun key => ?_, houtside, calls, hcalls, ?_⟩
      · rw [lastValue?_concat, if_neg (by simp [hkey])]
        exact hvalues key
      · have hcalled : calledKey? b.config (path, v) = none := by rw [calledKey?, hkey]; rfl
        simp [List.filterMap_append, hcalled, hkeys]
    · rw [apply_of_key b' w' v hkey]
      have hsets := b'.state.sets_withEffectValue key v
      obtain ⟨call?, hroutes, htakes⟩ := call_routes (b'.writeBack key v) w' key v
      refine ⟨hconfig, fun other => ?_, fun name hname => ?_, calls ++ call?.toList, ?_, ?_⟩
      · rw [lastValue?_concat]
        by_cases hother : other = key
        · rw [hother, if_pos hkey]
          exact hsets.holds
        · have hne : keyOf? path ≠ some other := by
            rw [hkey]
            exact fun h => hother (Option.some.inj h).symm
          rw [if_neg hne]
          exact (hsets.keeps other hother).trans (hvalues other)
      · exact (hsets.outside name hname).trans (houtside name hname)
      · rw [htakes.calls_eq, hcalls, List.append_assoc]
      · have hcalled : call?.map MachineCall.key = calledKey? b.config (path, v) := by
          rw [← hconfig]
          exact hroutes.key_eq hkey
        rw [List.map_append, hkeys, List.filterMap_append]
        cases call? <;> simp [← hcalled]

/-- **Edits reach the state and the machine.**  Recording the calls on the machine makes no
difference.  An edit that names no key of the effect is ignored: the state is the very same record,
and the machine is not called.  Any other edit counts by its key and its value alone; it sets that
key, makes the one call that the key asks for, and is answered as the machine answers.  A run of
edits leaves every key with its last value. -/
theorem edits_reach_machine (b : Bridge R) (w : Recorded R κ) :
    (∀ path v, b.apply w.machine path v =
      ((b.apply w path v).1, (b.apply w path v).2.1, (b.apply w path v).2.2.machine)) ∧
    (∀ path v, (segments path).length < 2 ∨ (segments path).head? ≠ some effectNamespace →
      b.apply w path v = (.ok .ignored, b, w)) ∧
    (∀ path v key rest, segments path = effectNamespace :: key :: rest →
      (∀ path' rest', segments path' = effectNamespace :: key :: rest' →
        b.apply w path' v = b.apply w path v) ∧
      ∃ answer b' w' call?, b.apply w path v = (answer, b', w') ∧ b'.config = b.config ∧
        b.state.Sets key v b'.state ∧ Routes b.config b'.state key v call? ∧
        w.Takes v call? answer w') ∧
    ∀ edits, Ran b w edits (b.applyAll w edits).1 (b.applyAll w edits).2 := by
  refine ⟨apply_recorded b w, fun path v h => apply_of_ignored b w v (keyOf?_eq_none h),
    fun path v key rest h => ⟨fun path' rest' h' => ?_, ?_⟩, fun edits => ran_applyAll b w edits⟩
  · rw [apply_of_key b w v (keyOf?_eq_some_iff.mpr ⟨rest, h⟩),
      apply_of_key b w v (keyOf?_eq_some_iff.mpr ⟨rest', h'⟩)]
  · obtain ⟨call?, hroutes, htakes⟩ := call_routes (b.writeBack key v) w key v
    exact ⟨_, _, _, call?, apply_of_key b w v (keyOf?_eq_some_iff.mpr ⟨rest, h⟩), rfl,
      b.state.sets_withEffectValue key v, hroutes, htakes⟩

/-- Half a point is refused by a chase, but the panel shows the one that was asked for, in a state
that had no place for it; the path may have more steps. -/
theorem refused_point_is_shown :
    let b : Bridge Rat :=
      ⟨{ scaleKeys := [("chaseCount", .float (1 / 2))] },
        { value := .obj [("effect", .int 5), ("mood", .str "calm")] }⟩
    let w : Recorded Rat (Scheduler Rat Chase) :=
      ⟨.create (Machine.create "chase" 20 80 (Chase.create Chase.defaultColor 2)) .halt, []⟩
    let path := "//effect/chaseCount/left"
    segments path = ["effect", "chaseCount", "left"] ∧
      ∃ e b' w', b.apply w path (.int 1) = (.error e, b', w') ∧
        b.state.Sets "chaseCount" (.int 1) b'.state ∧
        w'.calls = [.setConfig "chaseCount" (.float (1 / 2))] := by
  intro b w path
  have hpath : segments path = ["effect", "chaseCount", "left"] := by decide +kernel
  refine ⟨hpath, ?_⟩
  obtain ⟨-, -, hkeyed, -⟩ := edits_reach_machine b w
  obtain ⟨-, answer, b', w', call?, happly, -, hsets, hroutes, htakes⟩ :=
    hkeyed path (.int 1) "chaseCount" ["left"] hpath
  have hproduct : HasProduct b.config "chaseCount" (.int 1) (1 / 2) :=
    ⟨.float (1 / 2), 1 / 2, 1, rfl, rfl, rfl, (Rat.one_mul _).symm, rfl⟩
  cases hroutes with
  | interval hspeed _ | noNumber hspeed _ => exact absurd hspeed (by decide)
  | color _ hcolor => exact absurd hcolor (by simp [b])
  | plain _ _ hno => exact absurd hproduct (hno _)
  | @scaled product _ _ h =>
    obtain ⟨scale, factor, x, hscale, hfactor, hx, hp, -⟩ := h
    cases hscale
    cases hfactor
    cases hx
    have hhalf : product = 1 / 2 := by
      rw [hp]
      exact Rat.one_mul _
    subst hhalf
    have hrefused : (MachineCall.on (R := Rat) w.machine
        (.setConfig "chaseCount" (.float (1 / 2)))).1.isOk = false := by decide +kernel
    cases htakes with
    | refused _ => exact ⟨_, b', _, happly, hsets, rfl⟩
    | taken hon _ =>
      rw [hon] at hrefused
      cases hrefused

end Bridge
end LedStrip
