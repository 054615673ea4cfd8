import LedStrip.Proofs.Loader.Panels

/-!
# The stages of a load

A load fails at the first of its stages that fails.  `fetchFaults` lists what is wrong with the
resources, and `Stage.fault?` what is wrong at the stages after the check, each read off the sources
alone.  `Stage.Decides` picks the first of the stages, and what later stages read makes no difference
to it (`Stage.Decides.of_agree`).  A checker comes between the two and only judges an outcome that is
there without it (`judged`, `first_fault_decides`).
-/

namespace LedStrip

/-- The error of what failed. -/
def errorOf? {ε α : Type} : Except ε α → Option ε
  | .error e => some e
  | .ok _ => none

/-- A value, unless there is an error. -/
def okUnless {ε α : Type} (e? : Option ε) (a : α) : Except ε α :=
  match e? with
  | some e => .error e
  | none => .ok a

/-- The first that is there. -/
def first? {α : Type} (xs : List (Option α)) : Option α := xs.findSome? fun x => x

theorem first?_cons {α : Type} (x : Option α) (xs : List (Option α)) :
    first? (x :: xs) = x.or (first? xs) := by
  cases x <;> simp [first?]

namespace Returns

variable {m : Type → Type} [Monad m] [LawfulMonad m] {α β : Type} {P : α → Prop} {Q : β → Prop}

/-- What is returned first limits what has to be looked at next. -/
theorem andThen {x : m α} {f : α → m β} (hx : Returns P x) (hf : ∀ a, P a → Returns Q (f a)) :
    Returns Q (x >>= f) := by
  obtain ⟨y, rfl⟩ := hx
  have hbind : (Subtype.val <$> y) >>= f = y >>= fun a => f a.1 := by
    rw [map_eq_pure_bind, bind_assoc]
    simp only [pure_bind]
  rw [hbind]
  exact bind (fun a => hf a.1 a.2) y

end Returns

namespace Loader

open Script (Value)

/-! ### Fetching -/

section Fetching

variable {R : Type} [Scalar R] {m : Type → Type} [Monad m]

/-- A source that has one answer for every resource. -/
def Serves (source : Source m) (pack : String → Except FetchError String) : Prop :=
  ∀ r, source.fetch r = pure (pack r)

/-- The answers of some texts that are held in memory. -/
def answersOf (files : Entries String) (r : String) : Except FetchError String :=
  match Entries.get? r files with
  | some text => .ok text
  | none => .error (.notFound r)

theorem serves_ofEntries (files : Entries String) :
    Serves (Source.ofEntries files : Source m) (answersOf files) := fun _ => rfl

/-- What a pack says about an effect. -/
def aboutIn (R : Type) [Scalar R] (pack : String → Except FetchError String) (id : String) :
    Except FetchError EffectMeta :=
  match pack (Resource.about id) with
  | .error e => .error e
  | .ok text =>
    match Decoder.ofText (EffectMeta.decode (R := R)) text with
    | .ok about => .ok about
    | .error e => .error (.undecodable (Resource.about id) e)

/-- The resources that are texts, in the order in which they count. -/
def textResources (mode : PanelMode) (id : String) : List String :=
  [Resource.runtime, Resource.logic id, panelResource mode id]

/-- What keeps the resources of an effect from being fetched, in the order in which they count. -/
def fetchFaults (R : Type) [Scalar R] (pack : String → Except FetchError String) (mode : PanelMode)
    (id : String) : List (Option FetchError) :=
  errorOf? (aboutIn R pack id) :: (textResources mode id).map fun r => errorOf? (pack r)

/-- The sources are what a pack has for an effect. -/
structure Holds (R : Type) [Scalar R] (pack : String → Except FetchError String) (mode : PanelMode)
    (id : String) (s : Sources) : Prop where
  about : ∃ about, aboutIn R pack id = .ok about ∧
    s.about = { about with id := some (about.idOr id) }
  runtime : pack Resource.runtime = .ok s.runtime
  logic : pack (Resource.logic id) = .ok s.logic
  panel : pack (panelResource mode id) = .ok s.panel

variable [LawfulMonad m] {source : Source m} {pack : String → Except FetchError String}

omit [LawfulMonad m] in
/-- Four fetches, one after the other. -/
theorem fetchSources_eq (source : Source m) (mode : PanelMode) (id : String) :
    fetchSources R source mode id = (do
      match ← source.fetchJson (EffectMeta.decode (R := R)) (Resource.about id) with
      | .error e => pure (.error e)
      | .ok about =>
        match ← source.fetch Resource.runtime with
        | .error e => pure (.error e)
        | .ok runtime =>
          match ← source.fetch (Resource.logic id) with
          | .error e => pure (.error e)
          | .ok logic =>
            match ← source.fetch (panelResource mode id) with
            | .error e => pure (.error e)
            | .ok panel =>
              pure (.ok { about := { about with id := some (about.idOr id) }, runtime, logic, panel })) := by
  refine congrArg (source.fetchJson _ _ >>= ·) (funext fun about => ?_)
  cases about with
  | error e => rfl
  | ok about =>
    refine congrArg (source.fetch _ >>= ·) (funext fun runtime => ?_)
    cases runtime with
    | error e => rfl
    | ok runtime =>
      refine congrArg (source.fetch _ >>= ·) (funext fun logic => ?_)
      cases logic with
      | error e => rfl
      | ok logic =>
        refine congrArg (source.fetch _ >>= ·) (funext fun panel => ?_)
        cases panel <;> rfl

theorem fetchJson_of_serves (h : Serves source pack) (id : String) :
    source.fetchJson (EffectMeta.decode (R := R)) (Resource.about id) = pure (aboutIn R pack id) := by
  unfold Source.fetchJson aboutIn
  rw [h, pure_bind]
  cases pack (Resource.about id) with
  | error e => rfl
  | ok text =>
    dsimp only
    cases Decoder.ofText (EffectMeta.decode (R := R)) text <;> rfl

/-- **Of the resources that cannot be fetched the first one counts**; without one, all texts are
there. -/
theorem fetchSources_cases (h : Serves source pack) (mode : PanelMode) (id : String) :
    (∃ e, first? (fetchFaults R pack mode id) = some e ∧
      fetchSources R source mode id = pure (.error e)) ∨
    (first? (fetchFaults R pack mode id) = none ∧
      ∃ s, Holds R pack mode id s ∧ fetchSources R source mode id = pure (.ok s)) := by
  simp only [fetchSources_eq, fetchJson_of_serves h, h _, pure_bind, fetchFaults, textResources,
    List.map_cons, List.map_nil, first?_cons]
  cases habout : aboutIn R pack id with
  | error e => exact .inl ⟨e, rfl, rfl⟩
  | ok about =>
    cases hruntime : pack Resource.runtime with
    | error e => exact .inl ⟨e, rfl, rfl⟩
    | ok runtime =>
      cases hlogic : pack (Resource.logic id) with
      | error e => exact .inl ⟨e, rfl, rfl⟩
      | ok logic =>
        cases hpanel : pack (panelResource mode id) with
        | error e => exact .inl ⟨e, rfl, rfl⟩
        | ok panel => exact .inr ⟨rfl, _, ⟨⟨about, habout, rfl⟩, hruntime, hlogic, hpanel⟩, rfl⟩

/-- What has failed, whatever the error is. -/
def Failed {ε α : Type} (x : Except ε α) : Prop := ∃ e, x = .error e

/-- Where one of the resources can never be fetched, no sources are. -/
theorem fetchSources_failed {mode : PanelMode} {id : String}
    (h : Returns Failed (source.fetchJson (EffectMeta.decode (R := R)) (Resource.about id)) ∨
      ∃ r ∈ textResources mode id, Returns Failed (source.fetch r)) :
    Returns Failed (fetchSources R source mode id) := by
  have failed (e : FetchError) : Returns Failed (pure (.error e) : m (Except FetchError Sources)) :=
    .pure ⟨e, rfl⟩
  rw [fetchSources_eq]
  rcases h with habout | ⟨r, hr, hfetch⟩
  · refine habout.andThen ?_
    rintro _ ⟨e, rfl⟩
    exact failed e
  · have stops {f : Except FetchError String → m (Except FetchError Sources)}
        (hf : ∀ e, f (.error e) = pure (.error e)) : Returns Failed (source.fetch r >>= f) := by
      refine hfetch.andThen ?_
      rintro _ ⟨e, rfl⟩
      rw [hf]
      exact failed e
    refine .bind (fun about => ?_) _
    cases about with
    | error e => exact failed e
    | ok about =>
      rcases List.mem_cons.mp hr with rfl | hr
      · exact stops fun _ => rfl
      refine .bind (fun runtime => ?_) _
      cases runtime with
      | error e => exact failed e
      | ok runtime =>
        rcases List.mem_cons.mp hr with rfl | hr
        · exact stops fun _ => rfl
        refine .bind (fun logic => ?_) _
        cases logic with
        | error e => exact failed e
        | ok logic =>
          obtain rfl := List.mem_singleton.mp hr
          exact stops fun _ => rfl

end Fetching

/-! ### Stages after the check -/

/-- The stages after the check, in order. -/
inductive Stage where
  /-- Reading the functions that all effects share. -/
  | runtime
  | logic
  /-- Reading the script that draws the panel, if it is a script. -/
  | panelScript
  /-- Running the top level. -/
  | body
  | factory
  | panel
deriving DecidableEq, Repr

namespace Stage

/-- The place of a stage in the order. -/
def rank : Stage → Nat
  | runtime => 0
  | logic => 1
  | panelScript => 2
  | body => 3
  | factory => 4
  | panel => 5

def order : List Stage := [runtime, logic, panelScript, body, factory, panel]

theorem mem_order (stage : Stage) : stage ∈ order := by
  cases stage <;> decide

theorem pairwise_order : order.Pairwise fun a b => a.rank < b.rank := by decide

/-- The script that draws the panel, if it is a script. -/
def panelScript? (mode : PanelMode) (s : Sources) : Option String :=
  match mode with
  | .json => none
  | .script => some s.panel

/-- Two sets of sources that are the same for a stage and for those before it. -/
def Agree (mode : PanelMode) (s t : Sources) : Stage → Prop
  | runtime => s.runtime = t.runtime
  | logic => s.runtime = t.runtime ∧ s.logic = t.logic
  | panelScript | body | factory =>
    s.runtime = t.runtime ∧ s.logic = t.logic ∧ panelScript? mode s = panelScript? mode t
  | panel => s.runtime = t.runtime ∧ s.logic = t.logic ∧ s.panel = t.panel

/-- The program of a text; one that cannot be read has nothing in it. -/
def programOf (text : String) : Script.Program :=
  match Script.parse false [] text with
  | .ok p => p
  | .error _ => ⟨[], []⟩

/-- Where a text cannot be read. -/
def syntaxFault? (name text : String) : Option CompileFault :=
  (errorOf? (Script.parse false [] text)).map fun e => .unreadable name e.position.line

/-- The program of all scripts among the sources. -/
def program (mode : PanelMode) (s : Sources) : Script.Program :=
  programOf s.runtime ++ (programOf s.logic ++
    (((panelScript? mode s).map fun text => programOf text ++ ⟨[], []⟩).getD ⟨[], []⟩))

section Faults

variable {R : Type} [Scalar R]

/-- What a program exports once its top level was run. -/
def exports (R : Type) [Scalar R] (mode : PanelMode) (id : String) (s : Sources) : Entries (Value R) :=
  match (program mode s).run (outerVariables id mode) with
  | .ok vars => exportsOf vars
  | .error _ => []

/-- What is wrong at a stage, if the stages before it are fine. -/
def fault? (R : Type) [Scalar R] (mode : PanelMode) (id : String) (s : Sources) :
    Stage → Option LoadError
  | runtime => (syntaxFault? Resource.runtime s.runtime).map .compile
  | logic =>
    ((syntaxFault? (Resource.logic id) s.logic).or
      (if (programOf s.logic).functions.isEmpty then some (.noFunctions (Resource.logic id))
        else none)).map .compile
  | panelScript =>
    ((panelScript? mode s).bind (syntaxFault? (Resource.panelScript id))).map .compile
  | body =>
    (errorOf? ((program mode s).run (outerVariables (R := R) id mode))).map fun f =>
      .extraction (.body f.message)
  | factory =>
    (errorOf? (extractFactory s.about id (program mode s) (exports R mode id s))).map
      .extraction
  | panel =>
    match mode with
    | .json =>
      (errorOf? (specPanel (R := R) (Resource.panelSpec id) s.panel)).map .compile
    | .script =>
      (errorOf? (extractPanel (program mode s) (exports R mode id s))).map .extraction

/-- A stage fails, and it is the first to do so. -/
structure Decides (R : Type) [Scalar R] (mode : PanelMode) (id : String) (s : Sources)
    (stage : Stage) (e : LoadError) : Prop where
  fails : stage.fault? R mode id s = some e
  first : ∀ earlier : Stage, earlier.rank < stage.rank → earlier.fault? R mode id s = none

/-- A stage decides exactly if it is the first in the order whose fault is there. -/
theorem exists_decides_iff {mode : PanelMode} {id : String} {s : Sources} {e : LoadError} :
    (∃ stage, Decides R mode id s stage e) ↔ order.findSome? (fault? R mode id s) = some e := by
  rw [List.findSome?_eq_some_iff]
  constructor
  · rintro ⟨stage, hfails, hfirst⟩
    obtain ⟨before, after, horder⟩ := List.append_of_mem (mem_order stage)
    have hsorted := pairwise_order
    rw [horder, List.pairwise_append] at hsorted
    exact ⟨before, stage, after, horder, hfails, fun earlier hmem =>
      hfirst earlier (hsorted.2.2 earlier hmem stage List.mem_cons_self)⟩
  · rintro ⟨before, stage, after, horder, hfails, hbefore⟩
    refine ⟨stage, hfails, fun earlier hlt => hbefore earlier ?_⟩
    have hsorted := pairwise_order
    have hmem := mem_order earlier
    rw [horder] at hsorted hmem
    have hlater := (List.pairwise_cons.mp (List.pairwise_append.mp hsorted).2.1).1
    rcases List.mem_append.mp hmem with hmem | hmem
    · exact hmem
    · rcases List.mem_cons.mp hmem with rfl | hmem
      · omega
      · have := hlater earlier hmem
        omega

end Faults

/-! ### Reading the scripts -/

theorem compileSegment_logic (id text : String) :
    compileSegment ⟨Resource.logic id, text⟩ =
      okUnless ((syntaxFault? (Resource.logic id) text).or
        (if (programOf text).functions.isEmpty then some (.noFunctions (Resource.logic id))
          else none)) (programOf text) := by
  have hends : Text.endsWith "logic.rhai" (Resource.logic id) = true := by
    rw [Text.endsWith, List.isSuffixOf_iff_suffix, Resource.logic, String.toList_append]
    exact ⟨id.toList ++ ['/'], by rw [List.append_assoc]; rfl⟩
  unfold compileSegment syntaxFault? programOf
  cases Script.parse false [] text with
  | error e => rfl
  | ok p =>
    rw [hends]
    cases h : p.functions.isEmpty <;> simp [errorOf?, okUnless, h]

/-- Only logic has to define a function. -/
theorem compileSegment_of_not_logic {name : String} (h : Text.endsWith "logic.rhai" name = false)
    (text : String) :
    compileSegment ⟨name, text⟩ = okUnless (syntaxFault? name text) (programOf text) := by
  unfold compileSegment syntaxFault? programOf
  cases Script.parse false [] text with
  | error e => rfl
  | ok p => simp [errorOf?, okUnless, h]

theorem endsWith_panelScript (id : String) :
    Text.endsWith "logic.rhai" (Resource.panelScript id) = false := by
  rw [← Bool.not_eq_true, Text.endsWith, List.isSuffixOf_iff_suffix, Resource.panelScript,
    String.toList_append]
  intro h
  have hshort : "/ui.rhai".toList <:+ "logic.rhai".toList :=
    List.suffix_of_suffix_length_le (List.suffix_append _ _) h (by decide)
  exact absurd (List.isSuffixOf_iff_suffix.mpr hshort) (by decide)

/-- **The scripts are read in order**, and the first that cannot be read is reported. -/
theorem compileAll_segmentsOf (mode : PanelMode) (id : String) (s : Sources) :
    compileAll (segmentsOf mode id s) =
      okUnless (first? [syntaxFault? Resource.runtime s.runtime,
        (syntaxFault? (Resource.logic id) s.logic).or
          (if (programOf s.logic).functions.isEmpty then some (.noFunctions (Resource.logic id))
            else none),
        (panelScript? mode s).bind (syntaxFault? (Resource.panelScript id))]) (program mode s) := by
  have hruntime := compileSegment_of_not_logic
    (show Text.endsWith "logic.rhai" Resource.runtime = false by decide) s.runtime
  have hlogic := compileSegment_logic id s.logic
  have hpanel := compileSegment_of_not_logic (endsWith_panelScript id) s.panel
  unfold segmentsOf program
  rw [List.cons_append, compileAll, hruntime, List.cons_append, compileAll, hlogic,
    first?_cons, first?_cons, first?_cons]
  generalize syntaxFault? Resource.runtime s.runtime = runtime?
  generalize (syntaxFault? (Resource.logic id) s.logic).or _ = logic?
  cases runtime? with
  | some f => rfl
  | none =>
    cases logic? with
    | some f => rfl
    | none =>
      cases mode with
      | json => rfl
      | script =>
        dsimp only [panelScript?, List.nil_append, Option.bind_some]
        rw [compileAll, hpanel]
        cases syntaxFault? (Resource.panelScript id) s.panel <;> rfl

/-- **The first stage that fails is what a load reports.** -/
theorem errorOf?_assemble {R : Type} [Scalar R] (mode : PanelMode) (id : String) (s : Sources) :
    errorOf? (assemble (R := R) mode id s) = order.findSome? (fault? R mode id s) := by
  unfold assemble
  rw [compileAll_segmentsOf]
  simp only [order, List.findSome?_cons, fault?, first?_cons]
  generalize syntaxFault? Resource.runtime s.runtime = runtime?
  generalize (syntaxFault? (Resource.logic id) s.logic).or _ = logic?
  generalize (panelScript? mode s).bind _ = panelScript?
  cases runtime? with
  | some f => rfl
  | none =>
  cases logic? with
  | some f => rfl
  | none =>
  cases panelScript? with
  | some f => rfl
  | none =>
  -- the scripts are read: from here on there is one program
  unfold exports
  generalize program mode s = program
  cases hrun : program.run (outerVariables (R := R) id mode) with
  | error f =>
    simp only [okUnless, first?, Except.mapError, bind, Except.bind, hrun, errorOf?, throw,
      throwThe, MonadExceptOf.throw, List.findSome?_nil, Option.or_none, Option.map_none,
      Option.map_some]
  | ok vars =>
    simp only [okUnless, first?, Except.mapError, bind, Except.bind, hrun, errorOf?, pure,
      Except.pure, List.findSome?_nil, Option.or_none, Option.map_none]
    cases extractFactory s.about id program (exportsOf vars) with
    | error f => rfl
    | ok factory =>
      cases mode with
      | json => cases specPanel (R := R) (Resource.panelSpec id) s.panel <;> rfl
      | script => cases extractPanel program (exportsOf vars) <;> rfl

/-! ### What later stages read -/

section Agreement

variable {R : Type} [Scalar R] {mode : PanelMode} {id : String} {s t : Sources}
  {stage : Stage}

theorem Agree.mono (h : stage.Agree mode s t) {earlier : Stage} (hrank : earlier.rank ≤ stage.rank) :
    earlier.Agree mode s t := by
  have hscript (hpanel : s.panel = t.panel) : panelScript? mode s = panelScript? mode t := by
    cases mode with
    | json => rfl
    | script => exact congrArg some hpanel
  cases stage <;> cases earlier <;> simp_all [Agree, rank]

theorem program_congr (h : body.Agree mode s t) : program mode s = program mode t := by
  obtain ⟨hruntime, hlogic, hpanel⟩ := h
  simp only [program, hruntime, hlogic, hpanel]

omit [Scalar R] in
/-- Whether there is a factory is a question of the program alone. -/
theorem errorOf?_extractFactory (about about' : EffectMeta) (id : String) (p : Script.Program)
    (exported : Entries (Value R)) :
    errorOf? (extractFactory about id p exported) =
      errorOf? (extractFactory about' id p exported) := by
  unfold extractFactory
  cases exportedName exported "factory" factoryEntry with
  | error f => rfl
  | ok entry =>
    simp only [bind, Except.bind]
    cases p.defines entry 1 with
    | false => rfl
    | true => cases p.defines Hook.tick.name 1 <;> rfl

/-- What a stage finds wrong is a question of what it reads. -/
theorem fault?_congr (h : stage.Agree mode s t) :
    stage.fault? R mode id s = stage.fault? R mode id t := by
  cases stage with
  | runtime =>
    have hruntime : s.runtime = t.runtime := h
    simp only [fault?, hruntime]
  | logic =>
    obtain ⟨-, hlogic⟩ := h
    simp only [fault?, hlogic]
  | panelScript =>
    obtain ⟨-, -, hpanel⟩ := h
    simp only [fault?, hpanel]
  | body => simp only [fault?, program_congr h]
  | factory =>
    simp only [fault?, exports, program_congr h, errorOf?_extractFactory s.about t.about]
  | panel =>
    have hbody : body.Agree mode s t := Agree.mono h (by decide)
    obtain ⟨-, -, hpanel⟩ := h
    cases mode <;> simp only [fault?, exports, program_congr hbody, hpanel]

/-- **What later stages read makes no difference** to the stage that decides. -/
theorem Decides.of_agree {e : LoadError} (h : Decides R mode id s stage e)
    (hagree : stage.Agree mode s t) : Decides R mode id t stage e where
  fails := by rw [← fault?_congr hagree, h.fails]
  first earlier hlt := by
    rw [← fault?_congr (Agree.mono hagree (Nat.le_of_lt hlt)), h.first earlier hlt]

/-- What is wrong after the check is a fault of the scripts or the panel, not of the fetching or
the check. -/
theorem fault?_kind {e : LoadError} (h : stage.fault? R mode id s = some e) :
    (∃ f, e = .compile f) ∨ ∃ f, e = .extraction f := by
  cases stage with
  | runtime | logic | panelScript =>
    obtain ⟨f, -, rfl⟩ := Option.map_eq_some_iff.mp h
    exact .inl ⟨f, rfl⟩
  | body | factory =>
    obtain ⟨f, -, rfl⟩ := Option.map_eq_some_iff.mp h
    exact .inr ⟨_, rfl⟩
  | panel =>
    cases mode with
    | json =>
      obtain ⟨f, -, rfl⟩ := Option.map_eq_some_iff.mp h
      exact .inl ⟨f, rfl⟩
    | script =>
      obtain ⟨f, -, rfl⟩ := Option.map_eq_some_iff.mp h
      exact .inr ⟨f, rfl⟩

end Agreement

end Stage

/-! ### The check and the whole load -/

section Load

variable {R : Type} [Scalar R] {m : Type → Type} [Monad m] [LawfulMonad m]

/-- What comes of sources that were fetched, if nobody checks them. -/
def outcome (R : Type) [Scalar R] (mode : PanelMode) (id : String) (s : Sources) :
    Except LoadError (LoadedEffect R) :=
  (assemble mode id s).map fun l => { l with diagnostics := [] }

/-- An outcome in the light of a checker: errors refuse it, remarks are kept with it, and a checker
that cannot be reached makes no difference. -/
def judged (r : Except LoadError (LoadedEffect R)) :
    Except FetchError (List Diagnostic) → Except LoadError (LoadedEffect R)
  | .error _ => r
  | .ok ds =>
    if ds.any Diagnostic.isError then .error (.typeCheck ds)
    else r.map fun l => { l with diagnostics := ds }

theorem outcome_eq_error_iff {mode : PanelMode} {id : String} {s : Sources} {e : LoadError} :
    outcome R mode id s = .error e ↔ ∃ stage, Stage.Decides R mode id s stage e := by
  rw [Stage.exists_decides_iff, ← Stage.errorOf?_assemble]
  unfold outcome
  cases assemble (R := R) mode id s <;> simp [errorOf?, Except.map]

/-- Only the check refuses with its diagnostics. -/
theorem judged_eq_typeCheck_iff {mode : PanelMode} {id : String} {s : Sources}
    {answer : Except FetchError (List Diagnostic)} {ds : List Diagnostic} :
    judged (outcome R mode id s) answer = .error (.typeCheck ds) ↔
      answer = .ok ds ∧ ds.any Diagnostic.isError = true := by
  have hno : outcome R mode id s ≠ .error (.typeCheck ds) := by
    intro h
    obtain ⟨stage, hdecides⟩ := outcome_eq_error_iff.mp h
    rcases Stage.fault?_kind hdecides.fails with ⟨f, hf⟩ | ⟨f, hf⟩ <;> cases hf
  cases answer with
  | error e =>
    show outcome R mode id s = .error (.typeCheck ds) ↔ _
    simp [hno]
  | ok found =>
    show (if found.any Diagnostic.isError then _ else _) = _ ↔ _
    by_cases hany : found.any Diagnostic.isError = true
    · rw [if_pos hany]
      refine ⟨fun h => ?_, fun ⟨h, _⟩ => ?_⟩
      · cases h
        exact ⟨rfl, hany⟩
      · cases h
        rfl
    · rw [if_neg hany]
      refine ⟨fun h => ?_, fun ⟨h, hany'⟩ => ?_⟩
      · cases hr : outcome R mode id s with
        | error e =>
          rw [hr] at h hno
          exact absurd h hno
        | ok l =>
          rw [hr] at h
          cases h
      · cases h
        exact absurd hany' hany

variable {source : Source m} {id : String} {mode : PanelMode}

omit [LawfulMonad m] in
/-- An id that is no id is refused before anything is fetched. -/
theorem load_of_not_isValidId (h : isValidId id = false) (checker : Option (Checker m)) :
    load (R := R) source checker id mode = pure (.error (.fetch (.invalidResource id))) := by
  unfold load validateId
  rw [h]
  rfl

omit [LawfulMonad m] in
theorem load_of_isValidId (h : isValidId id = true) (checker : Option (Checker m)) :
    load (R := R) source checker id mode = (do
      match ← fetchSources R source mode id with
      | .error e => pure (.error (.fetch e))
      | .ok s =>
        match ← askChecker checker (combined (segmentsOf mode id s)) with
        | .error e => pure (.error e)
        | .ok ds => pure ((assemble mode id s).map fun l => { l with diagnostics := ds })) := by
  unfold load validateId
  rw [h]
  rfl

/-- Without a checker a load is what comes of what was fetched. -/
theorem load_unchecked (h : isValidId id = true) :
    load (R := R) source none id mode =
      (fun fetched => (fetched.mapError .fetch >>= outcome R mode id)) <$>
        fetchSources R source mode id := by
  rw [load_of_isValidId h, map_eq_pure_bind]
  refine congrArg (fetchSources R source mode id >>= ·) (funext fun fetched => ?_)
  cases fetched with
  | error e => rfl
  | ok s =>
    dsimp only [askChecker]
    rw [pure_bind]
    rfl

/-- A checker sees what was fetched, and judges what comes of it. -/
theorem load_checked (h : isValidId id = true) (check : Checker m) :
    load (R := R) source (some check) id mode = (do
      match ← fetchSources R source mode id with
      | .error e => pure (.error (.fetch e))
      | .ok s => judged (outcome R mode id s) <$> check (combined (segmentsOf mode id s))) := by
  rw [load_of_isValidId h]
  refine congrArg (fetchSources R source mode id >>= ·) (funext fun fetched => ?_)
  cases fetched with
  | error e => rfl
  | ok s =>
    dsimp only [askChecker]
    rw [bind_assoc, map_eq_pure_bind]
    refine congrArg (check _ >>= ·) (funext fun answer => ?_)
    cases answer with
    | error e =>
      dsimp only
      rw [pure_bind]
      rfl
    | ok ds =>
      dsimp only [judged]
      rw [pure_bind]
      cases hany : ds.any Diagnostic.isError with
      | true => rfl
      | false =>
        unfold outcome
        cases assemble (R := R) mode id s <;> rfl

/-- What was not fetched is not loaded, whatever was and whoever checks. -/
theorem load_failed {checker : Option (Checker m)}
    (h : Returns Failed (fetchSources R source mode id)) :
    Returns (fun r => ∃ e, r = .error (.fetch e)) (load (R := R) source checker id mode) := by
  cases hid : isValidId id with
  | false =>
    rw [load_of_not_isValidId hid]
    exact .pure ⟨_, rfl⟩
  | true =>
    rw [load_of_isValidId hid]
    refine h.andThen ?_
    rintro _ ⟨e, rfl⟩
    exact .pure ⟨e, rfl⟩

/-- How a source, an id and a mode decide what a load answers, and with which fault. -/
structure FirstFault (R : Type) [Scalar R] (source : Source m) (id : String) (mode : PanelMode) :
    Prop where
  /-- What is no id is refused with nothing done. -/
  badId : isValidId id = false → ∀ checker : Option (Checker m),
    load (R := R) source checker id mode = pure (.error (.fetch (.invalidResource id)))
  /-- A resource that is never fetched is an error of fetching, whatever else the source has and
  whoever checks. -/
  unfetched : (Returns Failed (source.fetchJson (EffectMeta.decode (R := R)) (Resource.about id)) ∨
      ∃ r ∈ textResources mode id, Returns Failed (source.fetch r)) →
    ∀ checker : Option (Checker m),
      Returns (fun r => ∃ e, r = .error (.fetch e)) (load (R := R) source checker id mode)
  /-- Where the source has one answer for each resource, the first fault among them counts. -/
  unserved : isValidId id = true → ∀ pack, Serves source pack →
    (∃ e, first? (fetchFaults R pack mode id) = some e ∧ ∀ checker : Option (Checker m),
      load (R := R) source checker id mode = pure (.error (.fetch e))) ∨
    (first? (fetchFaults R pack mode id) = none ∧
      ∃ s, Holds R pack mode id s ∧ fetchSources R source mode id = pure (.ok s))
  /-- Without a checker what was fetched decides alone. -/
  unchecked : isValidId id = true →
    load (R := R) source none id mode =
      (fun fetched => (fetched.mapError .fetch >>= outcome R mode id)) <$>
        fetchSources R source mode id
  /-- With one, what comes of the same sources is judged by its answer to their scripts. -/
  checked : isValidId id = true → ∀ check : Checker m,
    load (R := R) source (some check) id mode = (do
      match ← fetchSources R source mode id with
      | .error e => pure (.error (.fetch e))
      | .ok s => judged (outcome R mode id s) <$> check (combined (segmentsOf mode id s)))
  /-- It refuses exactly if there is an error among its findings, also what would fail anyway. -/
  vetoed : ∀ s answer ds, judged (outcome R mode id s) answer = .error (.typeCheck ds) ↔
    answer = .ok ds ∧ ds.any Diagnostic.isError = true
  /-- What fails without a checker fails with the fault of the first stage that has one. -/
  staged : ∀ s e, outcome R mode id s = .error e ↔ ∃ stage, Stage.Decides R mode id s stage e
  /-- Nothing that only later stages read makes a difference. -/
  unread : ∀ s t stage e, Stage.Decides R mode id s stage e → stage.Agree mode s t →
    outcome R mode id t = .error e

/-- **A load fails with the first thing that is wrong**, and a checker can only veto it. -/
theorem first_fault_decides (source : Source m) (id : String) (mode : PanelMode) :
    FirstFault R source id mode where
  badId := load_of_not_isValidId
  unfetched h _ := load_failed (fetchSources_failed h)
  unserved hid pack h := by
    rcases fetchSources_cases (R := R) h mode id with ⟨e, hfault, hfetch⟩ | hfine
    · refine .inl ⟨e, hfault, fun checker => ?_⟩
      rw [load_of_isValidId hid, hfetch, pure_bind]
    · exact .inr hfine
  unchecked := load_unchecked
  checked := load_checked
  vetoed _ _ _ := judged_eq_typeCheck_iff
  staged _ _ := outcome_eq_error_iff
  unread _ _ stage _ h hagree := outcome_eq_error_iff.mpr ⟨stage, h.of_agree hagree⟩

end Load

/-- A pack whose effect has no functions, and a panel that is no JSON. -/
def bareDot : Entries String :=
  [("dot/logic.rhai", ""), ("dot/meta.json", "\x7b\"name\": \"Dot\"\x7d"), ("dot/ui.json", "?"),
    ("runtime.rhai", "")]

/-- Logic without a function counts before a panel that is no JSON, and a finding of a checker
counts before both. -/
theorem empty_logic_is_reported :
    let source : Source Id := .ofEntries bareDot
    let finding : Diagnostic := ⟨1, 1, "no functions", .error⟩
    load (R := Rat) source none "dot" .json =
        .error (.compile (.noFunctions (Resource.logic "dot"))) ∧
      load (R := Rat) source (some fun _ => .ok [finding]) "dot" .json =
        .error (.typeCheck [finding]) := by
  intro source finding
  have decided := first_fault_decides (R := Rat) source "dot" .json
  have hid : isValidId "dot" = true := by decide
  obtain ⟨-, s, held, hfetch⟩ := (decided.unserved hid _ (serves_ofEntries _)).resolve_left (by
    rintro ⟨e, hfault, -⟩
    have hnone : first? (fetchFaults Rat (answersOf bareDot) .json "dot") = none := by decide +kernel
    exact absurd (hfault.symm.trans hnone) (Option.some_ne_none e))
  have hruntime : s.runtime = "" := (Except.ok.inj held.runtime).symm
  have hlogic : s.logic = "" := (Except.ok.inj held.logic).symm
  have hdecides : Stage.Decides Rat .json "dot" s .logic
      (.compile (.noFunctions (Resource.logic "dot"))) := by
    refine ⟨?_, fun earlier hlt => ?_⟩
    · simp only [Stage.fault?, hlogic]
      decide +kernel
    · cases earlier with
      | runtime =>
        simp only [Stage.fault?, hruntime]
        decide +kernel
      | _ => exact absurd hlt (by decide)
  have houtcome := (decided.staged s _).mpr ⟨.logic, hdecides⟩
  constructor
  · rw [decided.unchecked hid, hfetch]
    exact houtcome
  · rw [decided.checked hid, hfetch]
    exact (decided.vetoed s (.ok [finding]) [finding]).mpr ⟨rfl, rfl⟩

end Loader
end LedStrip
