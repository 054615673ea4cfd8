import LedStrip.Loader.Load
import LedStrip.Pack.Files
import LedStrip.Panel.Rendering
import LedStrip.Settings

/-!
# Reports on a pack

The commands that look at a pack without running anything: listing, describing and checking.  A report is what they print, and
why they failed if they did; what was printed before a failure stays printed.
-/

namespace LedStrip

structure Report where
  lines : List String := []
  failure : Option String := none
deriving DecidableEq, Repr

namespace Report

/-- Left-aligned in a column. -/
def padRight (width : Nat) (s : String) : String := s ++ Text.spaces (width - s.length)

/-- Right-aligned in a column. -/
def padLeft (width : Nat) (s : String) : String := Text.spaces (width - s.length) ++ s

/-- A report of a failure. -/
def fail (reason : String) : Report := { failure := some reason }

/-- A row of the list of effects. -/
def row (id name rest : String) : String := padRight 12 id ++ " " ++ padRight 20 name ++ " " ++ rest

variable (R : Type) [Scalar R] {m : Type → Type} [Monad m] [FileSystem m]

/-- The pack that the settings name. -/
def withEffects (s : Settings) (use : Source m → m Report) : m Report :=
  match Source.atLocation s.effectsRoot with
  | .error e => pure (fail s!"open effect pack {s.effectsRoot}: {e.message}")
  | .ok source => use source

/-- The row of an effect that a pack lists. -/
def listedRow (source : Source m) (id : String) : m String := do
  match ← source.fetchJson (EffectMeta.decode (R := R)) (Resource.about id) with
  | .ok about => return row id about.name about.description
  | .error e => return row id "-" s!"({e.details})"

/-- All effects of the pack and all built-in ones. -/
def list (s : Settings) : m Report :=
  withEffects s fun source => do
    let listed ←
      match ← Loader.effectIds R source with
      | .ok ids => ids.mapM (listedRow R source)
      | .error _ => pure []
    return {
      lines :=
        [s!"Effects (from {source.location}):", "", row "Id" "Name" "Description",
         String.ofList (List.replicate 60 '-')] ++ listed ++
        ["", "Builtins:"] ++
        (Registry.builtin (R := R)).all.map fun f => row f.id f.name f.description }

/-- A row of the list of controls. -/
def controlRow {R : Type} [Scalar R] (c : Control R) : String :=
  "  " ++ padRight 14 c.label ++ " " ++ padRight 22 c.path ++ " " ++ Scalar.text .plain c.min ++ ".." ++
    Scalar.text .plain c.max ++ " step " ++ Scalar.text .plain c.step ++ c.unit

/-- The panel of an effect. -/
def panelLines {R : Type} [Scalar R] (p : EffectPanel R) (w : Widget R) : List String :=
  ["", s!"Panel ({p.mode.name}):"] ++ (w.outline.map ("  " ++ ·)) ++
    (if w.controls.isEmpty then [] else ["", "Controls:"] ++ w.controls.map controlRow)

def yesNo (b : Bool) : String := if b then "yes" else "no"

/-- What an effect is and what its panel looks like. -/
def description {R : Type} [Scalar R] (l : LoadedEffect R) (hasSpec hasScript : Bool) : Report :=
  let range := l.panel.speedRange
  let head :=
    [s!"Effect: {l.id}", s!"Name: {l.about.name}"] ++
    (if l.about.description = "" then [] else [s!"Description: {l.about.description}"]) ++
    [s!"Entry: {l.factory.entry}", s!"UI modes: json {yesNo hasSpec}, script {yesNo hasScript}",
     s!"Speed: {range.min}-{range.max} ms (default {range.default})"]
  match l.panel.build { value := l.panel.initialState } with
  | .error e => { lines := head, failure := some s!"build panel: {e.message}" }
  | .ok w => { lines := head ++ panelLines l.panel w }

def describe (s : Settings) (id : String) (mode : PanelMode) : m Report :=
  withEffects s fun source => do
    match ← Loader.load (R := R) source none id mode with
    | .error e => return fail s!"{e.kind}: {e.message}"
    | .ok l =>
      let hasSpec := (← source.fetch (Resource.panelSpec id)).toOption.isSome
      let hasScript := (← source.fetch (Resource.panelScript id)).toOption.isSome
      return description l hasSpec hasScript

/-- What the checker says about an effect. -/
def check (s : Settings) (id : String) (mode : PanelMode) : m Report :=
  withEffects s fun source => do
    match ← Loader.load (R := R) source (some strictCheck) id mode with
    | .ok l =>
      return { lines := l.diagnostics.map Diagnostic.text ++
                 [s!"{l.id}: ok ({l.diagnostics.length} warning(s))"] }
    | .error e =>
      let shown :=
        match e with
        | .typeCheck ds => ds.map Diagnostic.text
        | _ => []
      return { lines := shown, failure := some s!"{id}: {e.kind}: {e.message}" }

end Report
end LedStrip
