import LedStrip.Effect.Options
import LedStrip.Loader.EffectPanel
import LedStrip.Pack.Files
import LedStrip.Scheduler.Basic
import LedStrip.Toml.Parser

/-!
# Settings

What a user sets once for all commands, kept as a TOML file in the configuration folder.  The file is written with its
defaults on first use; keys that it does not have keep their default, and keys that are not settings are ignored.
-/

namespace LedStrip

structure Settings where
  /-- Location of the effect pack. -/
  effectsRoot : String := "effects"
  /-- Location of the device pack. -/
  devicesRoot : String := "devices"
  /-- Length of the strip where no device is selected. -/
  defaultLedCount : Nat := LedStrip.defaultLedCount
  panelMode : PanelMode := .json
  tickPolicy : TickPolicy := .halt
  /-- Whether effects are checked before they are compiled. -/
  typeCheck : Bool := false
  /-- Most drawings in a second. -/
  previewRate : Nat := 30
deriving DecidableEq, Repr

inductive SettingsError where
  | read (path : String) (fault : FileFault)
  | write (path : String) (fault : FileFault)
  | undecodable
deriving DecidableEq, Repr

/-- Name of the error for a program that reads it. -/
def SettingsError.kind : SettingsError → String
  | read _ _ => "Read"
  | write _ _ => "Write"
  | undecodable => "Parse"

def SettingsError.message : SettingsError → String
  | read path fault => s!"Failed to read {path}: {fault.message}"
  | write path fault => s!"Failed to write {path}: {fault.message}"
  | undecodable => "Invalid config"

namespace Settings

/-- Milliseconds between two drawings. -/
def frameInterval (s : Settings) : Nat := 1000 / min (max s.previewRate 1) 120

/-! ### Reading -/

/-- An integer from zero to below a limit. -/
def natBelow? (limit : Nat) : Toml → Option Nat
  | .int n => if 0 ≤ n ∧ n < limit then some n.toNat else none
  | _ => none

/-- A choice by its name, also as the only key of a table, with nothing under it. -/
def choice? {α : Type} (ofName? : String → Option α) : Toml → Option α
  | .str s => ofName? s
  | .table _ [(name, .table _ [])] => ofName? name
  | .table _ [(name, .array [])] => ofName? name
  | _ => none

def string? : Toml → Option String
  | .str s => some s
  | _ => none

def bool? : Toml → Option Bool
  | .bool b => some b
  | _ => none

/-- Take the value of one key. -/
def set? (s : Settings) (key : String) (v : Toml) : Option Settings :=
  match key with
  | "effects_root" => (string? v).map fun x => { s with effectsRoot := x }
  | "devices_root" => (string? v).map fun x => { s with devicesRoot := x }
  | "default_led_count" => (natBelow? (2 ^ 63) v).map fun x => { s with defaultLedCount := x }
  | "ui_mode" => (choice? PanelMode.ofName? v).map fun x => { s with panelMode := x }
  | "tick_error_policy" => (choice? TickPolicy.ofName? v).map fun x => { s with tickPolicy := x }
  | "type_check" => (bool? v).map fun x => { s with typeCheck := x }
  | "preview_fps" => (natBelow? (2 ^ 32) v).map fun x => { s with previewRate := x }
  | _ => some s

/-- Read settings from the text of their file. -/
def ofText (text : String) : Except SettingsError Settings :=
  match (Toml.parse? text).bind fun members => members.foldlM (fun s e => set? s e.1 e.2) {} with
  | some s => .ok s
  | none => .error .undecodable

/-! ### Files -/

/-- The file that is written on first use. -/
def defaultText : String := Text.ofLines
  ["# led-preview configuration",
   "",
   "# Effect pack: a directory or an http(s):// base URL",
   "effects_root = \"effects\"",
   "",
   "# Device geometry pack",
   "devices_root = \"devices\"",
   "",
   "# LED count when no device is selected",
   "default_led_count = 20",
   "",
   "# Panel source: \"json\" (ui.json) or \"script\" (ui.rhai)",
   "ui_mode = \"json\"",
   "",
   "# What a failing tick does: \"halt\", \"skip-frame\" or \"propagate\"",
   "tick_error_policy = \"halt\"",
   "",
   "# Check effect sources before compiling them",
   "type_check = false",
   "",
   "# Terminal preview redraw cap",
   "preview_fps = 30"]

/-- What the environment says about folders. -/
structure Environment where
  /-- Folder for the configuration of programs. -/
  configHome : Option String := none
  home : Option String := none

/-- The folder of the file. -/
def folder (e : Environment) : String :=
  match e.configHome, e.home with
  | some dir, _ => joinPath dir "led-preview"
  | none, some dir => joinPath dir ".config/led-preview"
  | none, none => "/tmp/led-preview"

def defaultPath (e : Environment) : String := joinPath (folder e) "config.toml"

variable {m : Type → Type} [Monad m] [FileSystem m]

/-- Load settings from a file. -/
def load (path : String) : m (Except SettingsError Settings) := do
  match ← FileSystem.readText path with
  | .error fault => return .error (.read path fault)
  | .ok text => return ofText text

/-- Write the default file. -/
def writeDefault (e : Environment) : m (Except SettingsError Unit) := do
  match ← FileSystem.createFolders (folder e) with
  | .error fault => return .error (.write (defaultPath e) fault)
  | .ok _ => return (← FileSystem.writeText (defaultPath e) defaultText).mapError (.write (defaultPath e))

/-- Load the settings of the user; the file is written first if there is none. -/
def loadDefault (e : Environment) : m (Except SettingsError Settings) := do
  if ← FileSystem.pathExists (defaultPath e) then load (defaultPath e)
  else
    match ← writeDefault e with
    | .error fault => return .error fault
    | .ok _ => load (defaultPath e)

end Settings
end LedStrip
