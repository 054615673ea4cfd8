import LedStrip.Loader.EffectPanel
import LedStrip.Scheduler.Basic

/-!
# The command line

`CommandLine.parse` reads the arguments of the program from left to right; the first one that is wrong decides.  Some
options are known before and after the name of the command, and the later one wins.
-/

namespace LedStrip
namespace CommandLine

inductive Command where
  | list
  | describe (id : String) (mode : Option PanelMode)
  | check (id : String) (mode : Option PanelMode)
  | run (id : String) (frames : Nat) (leds : Option Nat) (builtin : Bool) (policy : Option TickPolicy)
  | preview (id : String) (device : Option String) (leds : Option Nat) (mode : Option PanelMode)
      (builtin : Bool) (policy : Option TickPolicy) (rate : Option Nat)
deriving DecidableEq, Repr

structure Invocation where
  verbose : Bool := false
  /-- File of settings in place of the user's. -/
  config : Option String := none
  effects : Option String := none
  devices : Option String := none
  command : Command
deriving DecidableEq, Repr

inductive Request where
  | invoke (i : Invocation)
  /-- Print the version under a name. -/
  | version (name : String)
  | help
deriving DecidableEq, Repr

inductive UsageError where
  | unknownOption (text : String)
  | missingValue (option : String)
  | unexpectedValue (option : String)
  | invalidValue (option text : String)
  | repeated (option : String)
  | unexpectedArgument (text : String)
  | missingArgument (name : String)
  | unknownCommand (text : String)
  | noCommand
deriving DecidableEq, Repr

def UsageError.message : UsageError → String
  | unknownOption text => s!"unexpected argument '{text}' found"
  | missingValue option => s!"a value is required for '--{option}' but none was supplied"
  | unexpectedValue option => s!"unexpected value for '--{option}' found; no more were expected"
  | invalidValue option text => s!"invalid value '{text}' for '--{option}'"
  | repeated option => s!"the argument '--{option}' cannot be used multiple times"
  | unexpectedArgument text => s!"unexpected argument '{text}' found"
  | missingArgument name => s!"the following required arguments were not provided: <{name}>"
  | unknownCommand text => s!"unrecognized subcommand '{text}'"
  | noCommand => "a subcommand is required but one was not provided"

/-! ### Values -/

/-- Digits after an optional plus sign, below a limit. -/
def natBelow? (limit : Nat) (s : String) : Option Nat :=
  let digits :=
    match s.toList with
    | '+' :: rest => rest
    | cs => cs
  (Text.natOf? 10 digits).filter (· < limit)

/-- A count of 64 bits. -/
def count? (s : String) : Option Nat := natBelow? (2 ^ 64) s

/-- A rate of 32 bits; a zero may have a minus sign. -/
def rate? (s : String) : Option Nat :=
  match s.toList with
  | '-' :: rest => if (Text.natOf? 10 rest) = some 0 then some 0 else none
  | _ => natBelow? (2 ^ 32) s

/-! ### Options -/

inductive OptionKind where
  | flag
  /-- Takes a value that passes a test. -/
  | value (accepts : String → Bool)
  | help
  | version

structure OptionSpec where
  long : String
  short : Option Char := none
  kind : OptionKind

/-- Options that every level knows. -/
def commonOptions : List OptionSpec :=
  [⟨"verbose", some 'v', .flag⟩, ⟨"config", none, .value (· ≠ "")⟩, ⟨"effects", none, .value fun _ => true⟩,
   ⟨"devices", none, .value fun _ => true⟩, ⟨"help", some 'h', .help⟩, ⟨"version", some 'V', .version⟩]

def modeOption : OptionSpec := ⟨"ui", none, .value fun s => (PanelMode.ofName? s).isSome⟩

def ledsOption : OptionSpec := ⟨"leds", none, .value fun s => (count? s).isSome⟩

def builtinOption : OptionSpec := ⟨"builtin", none, .flag⟩

def policyOption : OptionSpec := ⟨"policy", none, .value fun s => (TickPolicy.parse s).toOption.isSome⟩

inductive CommandName where
  | list
  | describe
  | check
  | run
  | preview
deriving DecidableEq, Repr

namespace CommandName

def name : CommandName → String
  | list => "list"
  | describe => "show"
  | check => "check"
  | run => "run"
  | preview => "preview"

def ofName? : String → Option CommandName
  | "list" => some list
  | "ls" => some list
  | "show" => some describe
  | "check" => some check
  | "run" => some run
  | "preview" => some preview
  | _ => none

def options : CommandName → List OptionSpec
  | list => []
  | describe => [modeOption]
  | check => [modeOption]
  | run =>
    [⟨"frames", some 'n', .value fun s => (count? s).isSome⟩, ledsOption, builtinOption, policyOption]
  | preview =>
    [⟨"device", none, .value fun _ => true⟩, ledsOption, modeOption, builtinOption, policyOption,
     ⟨"fps", none, .value fun s => (rate? s).isSome⟩]

/-- Whether it wants the id of an effect. -/
def takesId : CommandName → Bool
  | list => false
  | _ => true

end CommandName

/-! ### Reading a level -/

/-- What is given at a level: options with their values, and other arguments. -/
structure Given where
  options : List (String × String) := []
  arguments : List String := []
deriving Repr

namespace Given

def value? (g : Given) (option : String) : Option String := (g.options.find? (·.1 == option)).map (·.2)

def has (g : Given) (option : String) : Bool := (g.value? option).isSome

end Given

/-- What ends the reading of a level. -/
inductive Stop where
  | error (e : UsageError)
  | help
  | version

/-- A level: its options, the number of other arguments, and whether the first of them ends it. -/
structure Level where
  options : List OptionSpec
  arguments : Nat
  endsAtArgument : Bool := false

/-- Take an option with its value. -/
def Given.take (g : Given) (o : OptionSpec) (value : String) : Except Stop Given :=
  if g.has o.long then .error (.error (.repeated o.long))
  else
    match o.kind with
    | .value accepts =>
      if accepts value then .ok { g with options := (o.long, value) :: g.options }
      else .error (.error (.invalidValue o.long value))
    | _ => .ok { g with options := (o.long, value) :: g.options }

/-- Take an argument that is no option. -/
def Given.takeArgument (g : Given) (level : Level) (text : String) : Except Stop Given :=
  if g.arguments.length < level.arguments then .ok { g with arguments := g.arguments ++ [text] }
  else .error (.error (.unexpectedArgument text))

/-- Whether a text is an option rather than a value. -/
def looksLikeOption (s : String) : Bool := Text.startsWith "-" s && s ≠ "-"

/-- An option that wants a value takes the next text. -/
def Given.takeNext (g : Given) (o : OptionSpec) : List String → Except Stop (Given × List String)
  | [] => .error (.error (.missingValue o.long))
  | next :: rest =>
    if looksLikeOption next then .error (.error (.missingValue o.long))
    else (g.take o next).map fun g => (g, rest)

/-- Options of one letter behind one dash; the first that wants a value takes what is left of the text. -/
def Given.takeLetters (g : Given) (level : Level) (rest : List String) :
    List Char → Except Stop (Given × List String)
  | [] => .ok (g, rest)
  | c :: cs =>
    match level.options.find? (·.short == some c) with
    | none => .error (.error (.unknownOption (String.ofList ['-', c])))
    | some o =>
      match o.kind with
      | .help => .error .help
      | .version => .error .version
      | .flag =>
        match g.take o "" with
        | .ok g => g.takeLetters level rest cs
        | .error e => .error e
      | .value _ =>
        match cs with
        | [] => g.takeNext o rest
        | '=' :: value => (g.take o (String.ofList value)).map fun g => (g, rest)
        | value => (g.take o (String.ofList value)).map fun g => (g, rest)

/-- An option by its long name. -/
def Given.takeLong (g : Given) (level : Level) (rest : List String) (body : List Char) :
    Except Stop (Given × List String) :=
  let name := String.ofList (body.takeWhile (· != '='))
  let value? : Option String :=
    match body.dropWhile (· != '=') with
    | _ :: value => some (String.ofList value)
    | [] => none
  match level.options.find? (·.long == name) with
  | none => .error (.error (.unknownOption ("--" ++ name)))
  | some o =>
    match o.kind, value? with
    | .value _, some value => (g.take o value).map fun g => (g, rest)
    | .value _, none => g.takeNext o rest
    | _, some _ => .error (.error (.unexpectedValue o.long))
    | .help, none => .error .help
    | .version, none => .error .version
    | .flag, none => (g.take o "").map fun g => (g, rest)

/-- Read the texts of a level; what is left begins with the argument that ended it. -/
def Level.read (level : Level) : Nat → List String → Given → Except Stop (Given × List String)
  | 0, texts, g => .ok (g, texts)
  | _, [], g => .ok (g, [])
  | fuel + 1, text :: rest, g => do
    match text.toList with
    | ['-', '-'] => return (← rest.foldlM (fun g a => g.takeArgument level a) g, [])
    | '-' :: '-' :: body =>
      let (g, rest) ← g.takeLong level rest body
      level.read fuel rest g
    | '-' :: c :: cs =>
      let (g, rest) ← g.takeLetters level rest (c :: cs)
      level.read fuel rest g
    | _ =>
      if level.endsAtArgument then return (g, text :: rest)
      else level.read fuel rest (← g.takeArgument level text)

/-! ### The whole line -/

def programName : String := "led-preview"

def versionText (name : String) : String := s!"{name} 0.1.0"

/-- The command that is given under a name. -/
def commandOf (name : CommandName) (g : Given) : Except UsageError Command :=
  let mode := (g.value? "ui").bind PanelMode.ofName?
  let leds := (g.value? "leds").bind count?
  let policy := (g.value? "policy").bind fun s => (TickPolicy.parse s).toOption
  match name, g.arguments with
  | .list, _ => .ok .list
  | .describe, [id] => .ok (.describe id mode)
  | .check, [id] => .ok (.check id mode)
  | .run, [id] =>
    .ok (.run id (((g.value? "frames").bind count?).getD 10) leds (g.has "builtin") policy)
  | .preview, [id] =>
    .ok (.preview id (g.value? "device") leds mode (g.has "builtin") policy ((g.value? "fps").bind rate?))
  | _, _ => .error (.missingArgument "ID")

/-- Read a command and its arguments, after what was given before it. -/
def parseCommand (outer : Given) (name : CommandName) (texts : List String) : Except UsageError Request :=
  let level : Level := ⟨name.options ++ commonOptions, if name.takesId then 1 else 0, false⟩
  match level.read (texts.length + 1) texts {} with
  | .error (.error e) => .error e
  | .error .help => .ok .help
  | .error .version => .ok (.version s!"{programName}-{name.name}")
  | .ok (g, _) =>
    (commandOf name g).map fun command =>
      .invoke
        { verbose := outer.has "verbose" || g.has "verbose"
          config := (g.value? "config").or (outer.value? "config")
          effects := (g.value? "effects").or (outer.value? "effects")
          devices := (g.value? "devices").or (outer.value? "devices")
          command }

/-- Read the arguments of the program. -/
def parse (texts : List String) : Except UsageError Request :=
  match (Level.mk commonOptions 0 true).read (texts.length + 1) texts {} with
  | .error (.error e) => .error e
  | .error .help => .ok .help
  | .error .version => .ok (.version programName)
  | .ok (_, []) => .error .noCommand
  | .ok (outer, text :: rest) =>
    match CommandName.ofName? text with
    | some name => parseCommand outer name rest
    | none =>
      if text = "help" then
        match rest with
        | [] => .ok .help
        | topic :: more =>
          if (CommandName.ofName? topic).isSome || topic = "help" then
            match more with
            | [] => .ok .help
            | text :: _ => .error (.unknownCommand text)
          else .error (.unknownCommand topic)
      else .error (.unknownCommand text)

end CommandLine
end LedStrip
