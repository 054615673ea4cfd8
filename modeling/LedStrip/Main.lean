import LedStrip.CommandLine.Program

/-!
# The command line program

Carries out what the library decides: files are read and written, frames are printed as time passes, and a preview listens to
the keys.  What comes of a key or of a millisecond is computed by the session and its view.
-/

namespace LedStrip

/-! ### Files -/

/-- The fault that the system reports. -/
def FileFault.ofError : IO.Error → FileFault
  | .noFileOrDirectory .. => .notFound
  | .alreadyExists .. => .alreadyExists
  | .inappropriateType _ code details =>
    if code = 20 then .notDirectory else if code = 21 then .isDirectory else .other details
  | e => .other (toString e)

/-- Run an action that may fail. -/
def attempting {α : Type} (action : IO α) : IO (Except FileFault α) := do
  try return .ok (← action)
  catch e => return .error (FileFault.ofError e)

instance : FileSystem IO where
  readText path := do
    match ← attempting (IO.FS.readBinFile path) with
    | .error fault => return .error fault
    | .ok bytes =>
      match String.fromUTF8? bytes with
      | some text => return .ok text
      | none => return .error .notText
  pathExists path := return (← attempting (IO.FS.realPath path)).toOption.isSome
  createFolders path := attempting (IO.FS.createDirAll path)
  writeText path text := attempting (IO.FS.writeFile path text)

/-! ### Output and time -/

def printLines (lines : List String) : IO Unit := do
  let out ← IO.getStdout
  out.putStr (Text.ofLines lines)
  out.flush

def draw (steps : List Draw) : IO Unit := do
  let out ← IO.getStdout
  out.putStr (Draw.sequences steps)
  out.flush

/-- Sleep for some milliseconds, at most as many as the clock can count. -/
def rest (ms : Nat) : IO Unit := IO.sleep (UInt32.ofNat (min ms (2 ^ 32 - 1)))

/-! ### A run without a terminal -/

/-- Let the periods of a run pass until it has ended. -/
partial def attend (run : HeadlessRun Float (AnyEffect Float)) : IO (Except String Unit) := do
  match run.outcome with
  | some outcome => return outcome
  | none =>
    rest run.session.speed
    let (lines, run) := run.step
    printLines lines
    attend run

/-! ### A preview -/

/-- What has been typed and not been looked at, and whether more can come. -/
structure Typed where
  bytes : Array UInt8 := #[]
  ended : Bool := false

/-- Collect what is typed. -/
partial def listen (input : IO.FS.Stream) (typed : IO.Ref Typed) : IO Unit := do
  let bytes ← input.read 1
  if bytes.isEmpty then typed.modify fun t => { t with ended := true }
  else
    typed.modify fun t => { t with bytes := t.bytes ++ bytes.data }
    listen input typed

/-- Draw, wait, and let the session and the keys go on, until a key or the end of the input ends the preview. -/
partial def watch (typed : IO.Ref Typed) (interval seen : Nat) (v : View) (s : Session Float (AnyEffect Float)) :
    IO (Session Float (AnyEffect Float)) := do
  draw (v.screen s)
  rest interval
  let now ← IO.monoMsNow
  let t ← typed.modifyGet fun t => (t, { t with bytes := #[] })
  match v.pass s (now - seen) (Key.ofChars (Text.ofBytes t.bytes).toList) with
  | none => return s
  | some (v, s) => if t.ended then return s else watch typed interval now v s

/-- Preview a session on the terminal. -/
def preview (session : Session Float (AnyEffect Float)) (interval : Nat) : IO (Except String Unit) := do
  let input ← IO.getStdin
  if !(← input.isTty) then return .error "not a terminal"
  let typed ← IO.mkRef ({} : Typed)
  let _ ← IO.asTask (listen input typed)
  draw View.opening
  let last ← watch typed interval (← IO.monoMsNow) {} session
  draw View.closing
  return last.close.1.mapError EffectError.message

/-! ### Commands -/

/-- Carry out a task. -/
def carryOut : Task Float → IO (Except String Unit)
  | .report r => do
    printLines r.lines
    match r.failure with
    | some reason => return .error reason
    | none => return .ok ()
  | .headless lines run => do
    printLines lines
    attend run
  | .preview session interval => preview session interval

/-- Carry out an invocation; the answer is the exit code. -/
def invoke (i : CommandLine.Invocation) : IO UInt32 := do
  let environment : Settings.Environment :=
    { configHome := ← IO.getEnv "XDG_CONFIG_HOME", home := ← IO.getEnv "HOME" }
  let answer ←
    match ← Program.prepare (R := Float) environment i with
    | .error reason => pure (.error reason)
    | .ok task => carryOut task
  match answer with
  | .ok _ => return 0
  | .error reason => do
    IO.eprintln s!"Error: {reason}"
    return 1

end LedStrip

def main (arguments : List String) : IO UInt32 := do
  match LedStrip.CommandLine.parse arguments with
  | .error e => do
    IO.eprintln s!"error: {e.message}"
    return 2
  | .ok .help => do
    IO.print LedStrip.Program.help
    return 0
  | .ok (.version name) => do
    IO.println (LedStrip.CommandLine.versionText name)
    return 0
  | .ok (.invoke i) => LedStrip.invoke i
