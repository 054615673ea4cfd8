import LedStrip.CommandLine.Arguments
import LedStrip.CommandLine.Headless
import LedStrip.Terminal.View

/-!
# The program

`Program.prepare` turns an invocation into a task: a report that is complete, a run without a terminal, or a session to be
previewed.  Only the latter two need time to pass.
-/

namespace LedStrip

/-- Built-in effects and effects of packs. -/
abbrev AnyEffect (R : Type) := Builtin R ⊕ ScriptEffect R

inductive Task (R : Type) where
  | report (r : Report)
  /-- Lines to begin with, and the run. -/
  | headless (lines : List String) (run : HeadlessRun R (AnyEffect R))
  /-- A started session, and the milliseconds between two drawings. -/
  | preview (session : Session R (AnyEffect R)) (interval : Nat)

namespace Program

open CommandLine

/-- Settings as an invocation wants them. -/
def adjusted (s : Settings) (i : Invocation) : Settings :=
  let s := { s with effectsRoot := i.effects.getD s.effectsRoot, devicesRoot := i.devices.getD s.devicesRoot }
  match i.command with
  | .run _ _ _ _ policy => { s with tickPolicy := policy.getD s.tickPolicy }
  | .preview _ _ _ mode _ policy rate =>
    { s with panelMode := mode.getD s.panelMode, tickPolicy := policy.getD s.tickPolicy,
             previewRate := rate.getD s.previewRate }
  | _ => s

variable {R : Type} [Scalar R] {m : Type → Type} [Monad m] [FileSystem m]

/-- A session for a built-in effect, without a panel. -/
def builtinSession (id : String) (options : SessionOptions R) : Except String (Session R (AnyEffect R)) :=
  match (Registry.builtin (R := R)).find? id with
  | none => .error s!"unknown builtin effect: {id}"
  | some f => (Session.create (f.mapEffect .inl) none options).mapError SessionError.message

/-- A session for an effect of a pack. -/
def loadedSession (l : LoadedEffect R) (options : SessionOptions R) :
    Except SessionError (Session R (AnyEffect R)) :=
  Session.create (l.factory.toFactory.mapEffect .inr) (some l.panel) options

/-- A session for an effect. -/
def openSession (s : Settings) (id : String) (builtin : Bool) (options : SessionOptions R) :
    m (Except String (Session R (AnyEffect R))) := do
  if builtin then return builtinSession id options
  else
    match Source.atLocation s.effectsRoot with
    | .error e => return .error s!"open effect pack {s.effectsRoot}: {e.message}"
    | .ok source =>
      match ← Loader.load source (if s.typeCheck then some strictCheck else none) id s.panelMode with
      | .error e => return .error s!"{e.kind}: {e.message}"
      | .ok l => return (loadedSession l options).mapError SessionError.message

/-- The device of a pack to draw on: the requested one, else the only one. -/
def deviceId (source : Source m) (requested : Option String) : m (Option String) := do
  match requested with
  | some id => return some id
  | none =>
    match ← source.fetchJson (decodeDeviceList (R := R)) Resource.manifest with
    | .ok ids => return autoSelect? ids
    | .error _ => return none

def selectDevice (s : Settings) (requested : Option String) : m (Except String (Option (Device R))) := do
  match Source.atLocation s.devicesRoot with
  | .error e => return .error s!"open device pack {s.devicesRoot}: {e.message}"
  | .ok source =>
    match ← deviceId (R := R) source requested with
    | none => return .ok none
    | some id =>
      match ← Device.load source id with
      | .error e => return .error s!"load device {id}: {e.message}"
      | .ok d => return .ok (some d)

/-- A started session to be previewed; a length that is asked for keeps a device from being selected unasked. -/
def openPreview (s : Settings) (id : String) (device : Option String) (leds : Option Nat) (builtin : Bool) :
    m (Except String (Session R (AnyEffect R))) := do
  match ← if device.isSome || leds.isNone then selectDevice s device else pure (.ok none) with
  | .error e => return .error e
  | .ok device =>
    let options : SessionOptions R :=
      { ledCount := leds.getD s.defaultLedCount, device, policy := s.tickPolicy }
    return (← openSession s id builtin options).map fun session => session.toggleRun.2

/-- The task of a command. -/
def taskOf (s : Settings) : Command → m (Except String (Task R))
  | .list => return .ok (.report (← Report.list R s))
  | .describe id mode => return .ok (.report (← Report.describe R s id (mode.getD s.panelMode)))
  | .check id mode => return .ok (.report (← Report.check R s id (mode.getD s.panelMode)))
  | .run id frames leds builtin _ => do
    let options : SessionOptions R := { ledCount := leds.getD s.defaultLedCount, policy := s.tickPolicy }
    return (← openSession s id builtin options).map fun session =>
      let (lines, run) := HeadlessRun.start id session frames
      .headless lines run
  | .preview id device leds _ builtin _ _ => do
    return (← openPreview s id device leds builtin).map fun session => .preview session s.frameInterval

/-- Load the settings and find the task. -/
def prepare (e : Settings.Environment) (i : Invocation) : m (Except String (Task R)) := do
  let settings ←
    match i.config with
    | some path => Settings.load path
    | none => Settings.loadDefault e
  match settings with
  | .error e => return .error e.message
  | .ok s => taskOf (adjusted s i) i.command

/-! ### Help -/

def help : String := Text.ofLines
  ["Load, check and preview scripted LED effects",
   "",
   "Usage: led-preview [OPTIONS] <COMMAND>",
   "",
   "Commands:",
   "  list     List available effects [aliases: ls]",
   "  show     Show metadata and the compiled panel of an effect",
   "  check    Load an effect with type checking and report diagnostics",
   "  run      Run an effect headless and print each frame as hex",
   "  preview  Preview an effect interactively in the terminal",
   "  help     Print this message or the help of the given subcommand(s)",
   "",
   "Options:",
   "  -v, --verbose             Verbose logging (debug level)",
   "      --config <FILE>       Config file (default: ~/.config/led-preview/config.toml)",
   "      --effects <PATH|URL>  Effect pack directory or http(s) base URL",
   "      --devices <PATH|URL>  Device pack directory or http(s) base URL",
   "  -h, --help                Print help",
   "  -V, --version             Print version"]

/-! ### Without a terminal -/

/-- How a program has ended: its exit code and what it has printed. -/
structure Ended where
  code : Nat
  output : String

/-- End a report: a failure gives the code one. -/
def Ended.ofReport (r : Report) : Ended := ⟨if r.failure.isSome then 1 else 0, Text.ofLines r.lines⟩

/-- End a run, which may take so many periods; one that has not come to its end has failed. -/
def Ended.ofRun (periods : Nat) (lines : List String) (run : HeadlessRun R (AnyEffect R)) : Ended :=
  let (more, run) := run.steps periods
  let failure :=
    match run.outcome with
    | some (.ok _) => none
    | some (.error reason) => some reason
    | none => some "out of time"
  .ofReport { lines := lines ++ more, failure }

/-- The whole program where there is no terminal: a bad command line gives the code two before anything is read or
written, and a preview fails when it comes to drawing. -/
def runUnattended (periods : Nat) (e : Settings.Environment) (arguments : List String) : m Ended := do
  match parse arguments with
  | .error _ => return ⟨2, ""⟩
  | .ok .help => return ⟨0, help⟩
  | .ok (.version name) => return ⟨0, versionText name ++ "\n"⟩
  | .ok (.invoke i) =>
    match ← prepare (R := R) e i with
    | .error reason => return .ofReport (.fail reason)
    | .ok (.report r) => return .ofReport r
    | .ok (.headless lines run) => return .ofRun periods lines run
    | .ok (.preview _ _) => return .ofReport (.fail "not a terminal")

end Program
end LedStrip
