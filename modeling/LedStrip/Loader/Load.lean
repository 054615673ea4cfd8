import LedStrip.Loader.EffectPanel
import LedStrip.Loader.ScriptEffect

/-!
# Loading an effect

`load` takes an effect of a pack through its stages: fetch, check, compile, run and extract.  The first stage that fails
decides the error.  A checker can only veto: where it cannot be reached, or reports no error, loading goes on as without
it.
-/

namespace LedStrip

open Script (Value)

inductive CompileFault where
  | unreadable (segment : String) (line : Nat)
  | noFunctions (segment : String)
  | badPanel (resource : String) (e : PanelError)
deriving DecidableEq, Repr

def CompileFault.message : CompileFault → String
  | unreadable segment line => s!"{segment} line {line}"
  | noFunctions segment => s!"{segment} defines no functions"
  | badPanel resource e => s!"{resource}: {e.message}"

inductive ExtractionFault where
  /-- The top level of the script failed. -/
  | body (reason : String)
  | notFunctionName (key : String)
  | noFactory (entry : String)
  | noFrameHook
  | noPanel (entry : String)
  | wrongType (key : String)
  | panel (e : PanelError)
deriving DecidableEq, Repr

def ExtractionFault.message : ExtractionFault → String
  | body reason => s!"module body failed: {reason}"
  | notFunctionName key => s!"exports.{key} must be a function name"
  | noFactory entry => s!"no effect factory: expected fn {entry}(config)"
  | noFrameHook => "no frame hook: expected fn on_tick(led_count)"
  | noPanel entry => s!"no panel component: expected fn {entry}(state)"
  | wrongType key => s!"exports.{key}"
  | panel e => e.message

inductive LoadError where
  | fetch (e : FetchError)
  | compile (f : CompileFault)
  | extraction (f : ExtractionFault)
  | typeCheck (diagnostics : List Diagnostic)
deriving DecidableEq, Repr

/-- Name of the error for a program or a user that reads it. -/
def LoadError.kind : LoadError → String
  | fetch _ => "FetchError"
  | compile _ => "CompileError"
  | extraction _ => "ExtractionError"
  | typeCheck _ => "TypeCheckError"

def LoadError.message : LoadError → String
  | fetch e => e.message
  | compile f => s!"Compile failed: {f.message}"
  | extraction f => s!"Missing export: {f.message}"
  | typeCheck ds => s!"Type check failed with {ds.countP Diagnostic.isError} error(s)"

structure LoadedEffect (R : Type) where
  about : EffectMeta
  factory : ScriptFactory
  panel : EffectPanel R
  /-- What the checker had to say, if there was one. -/
  diagnostics : List Diagnostic

namespace LoadedEffect

variable {R : Type}

def id (l : LoadedEffect R) : String := l.about.id.getD ""

end LoadedEffect

namespace Loader

/-! ### Compiling -/

/-- A named piece of the sources of an effect. -/
structure Segment where
  name : String
  text : String

/-- What a checker sees. -/
def combined (segments : List Segment) : String := "\n\n".intercalate (segments.map (·.text))

/-- Read one segment; logic has to define a function. -/
def compileSegment (s : Segment) : Except CompileFault Script.Program :=
  match Script.parse false [] s.text with
  | .error e => .error (.unreadable s.name e.position.line)
  | .ok p =>
    if Text.endsWith "logic.rhai" s.name && p.functions.isEmpty then .error (.noFunctions s.name) else .ok p

/-- Read segments in order into one program. -/
def compileAll : List Segment → Except CompileFault Script.Program
  | [] => .ok ⟨[], []⟩
  | s :: rest => do
    let p ← compileSegment s
    let q ← compileAll rest
    return p ++ q

/-! ### Running the top level -/

/-- Version of what scripts can ask the host for. -/
def hostVersion : Nat := 1

variable {R : Type}

/-- Variables of the top level: a constant that describes the host, and an empty map for what is exported. -/
def outerVariables (effectId : String) (mode : PanelMode) : List (Script.Variable R) :=
  [⟨exportsVariable, .map [], false⟩,
   ⟨hostVariable, .map [("api", .int hostVersion), ("effect", .str effectId), ("ui_mode", .str mode.name)], true⟩]

/-- What a script exports: the members of its newest `exports`, if that is a map. -/
def exportsOf (vars : List (Script.Variable R)) : Entries (Value R) :=
  match (Script.lookup? exportsVariable vars).map (·.value) with
  | some (Value.map members) => members
  | _ => []

/-! ### Extracting -/

/-- A function name that is exported under a key, or a default. -/
def exportedName (exported : Entries (Value R)) (key default : String) : Except ExtractionFault String :=
  match Entries.get? key exported with
  | none => .ok default
  | some .unit => .ok default
  | some (.str s) => .ok s
  | some _ => .error (.notFunctionName key)

/-- A value that is exported under a key, if there is one. -/
def exported? {α : Type} (read : Value R → Option α) (exported : Entries (Value R)) (key : String) :
    Except ExtractionFault (Option α) :=
  match Entries.get? key exported with
  | none => .ok none
  | some .unit => .ok none
  | some v =>
    match read v with
    | some a => .ok (some a)
    | none => .error (.wrongType key)

def extractFactory (about : EffectMeta) (id : String) (program : Script.Program)
    (exported : Entries (Value R)) : Except ExtractionFault ScriptFactory := do
  let entry ← exportedName exported "factory" factoryEntry
  if !program.defines entry 1 then throw (.noFactory entry)
  if !program.defines Hook.tick.name 1 then throw .noFrameHook
  return { id := about.idOr id, name := about.name, description := about.description, entry := entry,
           program := program }

def stringOf? : Value R → Option String
  | .str s => some s
  | _ => none

/-- A whole number that is not negative. -/
def natOf? : Value R → Option Nat
  | .int n => if 0 ≤ n then some n.toNat else none
  | .word n => some n
  | _ => none

def stringsOf? : Value R → Option (List String)
  | .array items => items.mapM stringOf?
  | _ => none

variable [Scalar R]

/-- A map as JSON members. -/
def membersOf? : Value R → Option (Entries (Json R))
  | .map members => members.mapM fun e => (e.2.toJson?).map fun v => (e.1, v)
  | _ => none

/-- A bridge given as a map. -/
def bridgeOf? : Value R → Option (BridgeConfig R)
  | .map members => do
    let colorKeys ← ((Entries.get? "colorKeys" members).map stringsOf?).getD (some [])
    let scaleKeys ← ((Entries.get? "scaleKeys" members).map membersOf?).getD (some [])
    return { colorKeys, scaleKeys }
  | _ => none

omit [Scalar R] in
/-- A speed range given as a map. -/
def speedOf? : Value R → Option SpeedRange
  | .map members => do
    let min ← (Entries.get? "min" members).bind natOf?
    let max ← (Entries.get? "max" members).bind natOf?
    let default ← (Entries.get? "default" members).bind natOf?
    return { min, max, default }
  | _ => none

/-- The state of a script panel that exports none. -/
def emptyPanelState : Json R := .obj [(effectNamespace, .obj [])]

/-- A script panel; it is drawn once, so that a broken one is found here. -/
def extractPanel (program : Script.Program) (exported : Entries (Value R)) :
    Except ExtractionFault (ScriptPanel R) := do
  let entry ← exportedName exported "panel" panelEntry
  if !program.defines entry 1 then throw (.noPanel entry)
  let state ← exported? Value.toJson? exported "state"
  let bridge ← exported? bridgeOf? exported "bridge"
  let speed ← exported? speedOf? exported "speed"
  let panel : ScriptPanel R := { entry, program, state := state.getD emptyPanelState, bridge, speed }
  match panel.build { value := panel.state } with
  | .ok _ => return panel
  | .error e => throw (.panel e)

/-- A panel description that compiles. -/
def specPanel (resource text : String) : Except CompileFault (PanelSpec R) :=
  match PanelSpec.ofText text with
  | .error e => .error (.badPanel resource e)
  | .ok spec =>
    match spec.compile with
    | .error e => .error (.badPanel resource e)
    | .ok _ => .ok spec

/-! ### The stages -/

/-- What is fetched of an effect. -/
structure Sources where
  about : EffectMeta
  runtime : String
  logic : String
  panel : String

def panelResource (mode : PanelMode) (id : String) : String :=
  match mode with
  | .json => Resource.panelSpec id
  | .script => Resource.panelScript id

/-- The scripts among the sources. -/
def segmentsOf (mode : PanelMode) (id : String) (s : Sources) : List Segment :=
  [⟨Resource.runtime, s.runtime⟩, ⟨Resource.logic id, s.logic⟩] ++
  (match mode with
    | .json => []
    | .script => [⟨Resource.panelScript id, s.panel⟩])

/-- The stages after the check. -/
def assemble (mode : PanelMode) (id : String) (s : Sources) : Except LoadError (LoadedEffect R) := do
  let program ← (compileAll (segmentsOf mode id s)).mapError .compile
  let vars : List (Script.Variable R) ←
    match program.run (outerVariables id mode) with
    | .ok vars => pure vars
    | .error f => throw (.extraction (.body f.message))
  let exported := exportsOf vars
  let factory ← (extractFactory s.about id program exported).mapError .extraction
  let panel ←
    match mode with
    | .json => ((specPanel (Resource.panelSpec id) s.panel).map .spec).mapError .compile
    | .script => ((extractPanel program exported).map .script).mapError .extraction
  return { about := s.about, factory, panel, diagnostics := [] }

variable {m : Type → Type} [Monad m]

/-- Fetch all sources; of several that fail the first one is reported. -/
def fetchSources (R : Type) [Scalar R] (source : Source m) (mode : PanelMode) (id : String) :
    m (Except FetchError Sources) := ExceptT.run do
  let about ← ExceptT.mk (source.fetchJson (EffectMeta.decode (R := R)) (Resource.about id))
  let runtime ← ExceptT.mk (source.fetch Resource.runtime)
  let logic ← ExceptT.mk (source.fetch (Resource.logic id))
  let panel ← ExceptT.mk (source.fetch (panelResource mode id))
  return { about := { about with id := some (about.idOr id) }, runtime, logic, panel }

/-- Ask a checker, if there is one; what it reports are errors or remarks. -/
def askChecker (checker : Option (Checker m)) (text : String) :
    m (Except LoadError (List Diagnostic)) := do
  match checker with
  | none => return .ok []
  | some check =>
    match ← check text with
    | .error _ => return .ok []
    | .ok ds => return if ds.any Diagnostic.isError then .error (.typeCheck ds) else .ok ds

/-- Load one effect. -/
def load (source : Source m) (checker : Option (Checker m)) (id : String) (mode : PanelMode) :
    m (Except LoadError (LoadedEffect R)) := do
  match validateId id with
  | .error e => return .error (.fetch e)
  | .ok _ =>
    match ← fetchSources R source mode id with
    | .error e => return .error (.fetch e)
    | .ok sources =>
      match ← askChecker checker (combined (segmentsOf mode id sources)) with
      | .error e => return .error e
      | .ok ds => return (assemble mode id sources).map fun l => { l with diagnostics := ds }

/-- Ids of the effects that a pack lists. -/
def effectIds (R : Type) [Scalar R] (source : Source m) : m (Except LoadError (List String)) := do
  return (← source.fetchJson (decodeEffectList (R := R)) Resource.manifest).mapError .fetch

end Loader
end LedStrip
