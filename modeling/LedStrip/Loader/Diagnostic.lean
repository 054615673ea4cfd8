import LedStrip.Effect.Basic
import LedStrip.Pack.Source
import LedStrip.Script.Parser

/-!
# Diagnostics

What a checker has to say about the sources of an effect before they are compiled.  `strictCheck` reads a source with
undeclared variables refused, and warns of hooks that are missing.  `Cache.check` remembers the answers of another checker
by source; an error is not an answer.
-/

namespace LedStrip

inductive Severity where
  | error
  | warning
deriving DecidableEq, Repr, Inhabited

structure Diagnostic where
  /-- Counted from one; zero where the finding has no place. -/
  line : Nat
  column : Nat
  message : String
  category : Severity
deriving DecidableEq, Repr, Inhabited

namespace Diagnostic

def warning (message : String) : Diagnostic := ⟨0, 0, message, .warning⟩

def isError (d : Diagnostic) : Bool := d.category == .error

def ofSyntaxError (e : Script.SyntaxError) : Diagnostic :=
  ⟨e.position.line, e.position.column, e.fault.message, .error⟩

def text (d : Diagnostic) : String :=
  let label := if d.isError then "error" else "warning"
  if d.line = 0 then s!"{label}: {d.message}" else s!"{d.line}:{d.column}: {label}: {d.message}"

end Diagnostic

/-! ### Names that scripts and their host share -/

/-- The function that describes a machine, unless a script names another. -/
def factoryEntry : String := "create_effect"

/-- The function that draws a panel, unless a script names another. -/
def panelEntry : String := "render"

/-- The variable that describes the host to the top level of a script. -/
def hostVariable : String := "host"

/-- The variable under whose members a script exports. -/
def exportsVariable : String := "exports"

/-- A checking service; an error means that it could not be reached. -/
abbrev Checker (m : Type → Type) := String → m (Except FetchError (List Diagnostic))

/-- Read a source in strict mode. -/
def strictDiagnostics (source : String) : List Diagnostic :=
  match Script.parse true [hostVariable, exportsVariable] source with
  | .error e => [.ofSyntaxError e]
  | .ok p =>
    (if p.definesName Hook.reset.name then []
      else [.warning "no on_reset() hook: stop() will not reset effect counters"]) ++
    (if p.definesName Hook.setConfig.name then []
      else [.warning "no on_set_config(key, value) hook: panel edits are ignored"])

def strictCheck {m : Type → Type} [Monad m] : Checker m := fun source => pure (.ok (strictDiagnostics source))

/-! ### Remembered answers -/

structure Cache where
  answers : Entries (List Diagnostic) := []

namespace Cache

def size (c : Cache) : Nat := c.answers.length

def isEmpty (c : Cache) : Bool := c.answers.isEmpty

def clear (_ : Cache) : Cache := {}

/-- A remembered answer, or the answer of the inner checker, remembered if it is one. -/
def check {m : Type → Type} [Monad m] (inner : Checker m) : Checker (StateT Cache m) := fun source c =>
  match Entries.get? source c.answers with
  | some ds => pure (.ok ds, c)
  | none => do
    match ← inner source with
    | .ok ds => pure (.ok ds, { c with answers := Entries.insert source ds c.answers })
    | .error e => pure (.error e, c)

end Cache
end LedStrip
