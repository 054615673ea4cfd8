import LedStrip.Entries

/-!
# TOML documents

Values of a document and the rules by which its lines build tables.  A table remembers how it came about, for that decides
who may add to it: a table in braces takes nothing more, one named by a header is extended by headers only, one made by a
dotted key by dotted keys only.
-/

namespace LedStrip

/-- How a table came about. -/
inductive TableOrigin where
  /-- Written in braces. -/
  | braces
  /-- Named by a header. -/
  | header
  /-- On the way to a table that a header names. -/
  | implied
  /-- On the way of a dotted key. -/
  | dotted
deriving DecidableEq, Repr

inductive Toml where
  | str (s : String)
  | int (n : Int)
  /-- A number with a fraction or an exponent, as written. -/
  | float (text : String)
  | bool (b : Bool)
  /-- A date, a time or both, as written. -/
  | moment (text : String)
  | array (items : List Toml)
  | table (origin : TableOrigin) (members : List (String × Toml))
  /-- Tables that were added one by one. -/
  | tables (elements : List (List (String × Toml)))
deriving Inhabited

namespace Toml

/-! ### Adding to tables -/

/-- Add a key that is not there yet. -/
def put (key : String) (v : Toml) (m : Entries Toml) : Option (Entries Toml) :=
  if Entries.contains key m then none else some (Entries.insert key v m)

/-- Whether a dotted key may lead through a table, or end in it. -/
def TableOrigin.admits (ends : Bool) : TableOrigin → Bool
  | .dotted => true
  | .implied => !ends
  | _ => false

/-- Replace the last of some tables. -/
def updateLast (f : Entries Toml → Option (Entries Toml)) :
    List (Entries Toml) → Option (List (Entries Toml))
  | [] => none
  | [m] => (f m).map fun m => [m]
  | m :: rest => (updateLast f rest).map (m :: ·)

/-- Add a value under a dotted key. -/
def putDotted (key : String) (v : Toml) : List String → Entries Toml → Option (Entries Toml)
  | [], m => put key v m
  | step :: rest, m =>
    match Entries.get? step m with
    | none => (putDotted key v rest []).map fun inner => Entries.insert step (table .dotted inner) m
    | some (table origin inner) =>
      if TableOrigin.admits rest.isEmpty origin then
        (putDotted key v rest inner).map fun inner => Entries.insert step (table origin inner) m
      else none
    | some (tables elements) =>
      if rest.isEmpty then none
      else (updateLast (putDotted key v rest) elements).map fun es => Entries.insert step (tables es) m
    | some _ => none

/-- Change the table at a path of headers, making the tables on the way. -/
def updateAt (f : Entries Toml → Option (Entries Toml)) : List String → Entries Toml → Option (Entries Toml)
  | [], m => f m
  | step :: rest, m =>
    match Entries.get? step m with
    | none => (updateAt f rest []).map fun inner => Entries.insert step (table .implied inner) m
    | some (table .braces _) => none
    | some (table origin inner) =>
      (updateAt f rest inner).map fun inner => Entries.insert step (table origin inner) m
    | some (tables elements) =>
      (updateLast (updateAt f rest) elements).map fun es => Entries.insert step (tables es) m
    | some _ => none

/-- A header names a table: a new one, or one that was only on the way so far. -/
def declare (key : String) (m : Entries Toml) : Option (Entries Toml) :=
  match Entries.get? key m with
  | none => some (Entries.insert key (table .header []) m)
  | some (table .implied inner) => some (Entries.insert key (table .header inner) m)
  | some _ => none

/-- A header adds one more table. -/
def append (key : String) (m : Entries Toml) : Option (Entries Toml) :=
  match Entries.get? key m with
  | none => some (Entries.insert key (tables [[]]) m)
  | some (tables elements) => some (Entries.insert key (tables (elements ++ [[]])) m)
  | some _ => none

/-! ### Documents -/

/-- A dotted key. -/
structure KeyPath where
  init : List String
  last : String

def KeyPath.steps (k : KeyPath) : List String := k.init ++ [k.last]

/-- A line of a document. -/
inductive Line where
  | entry (key : KeyPath) (v : Toml)
  | header (key : KeyPath)
  | element (key : KeyPath)

/-- A document under construction: its tables, and the path of the table that entries go to. -/
structure Document where
  root : Entries Toml := []
  current : List String := []

/-- Take one more line. -/
def Document.add (d : Document) : Line → Option Document
  | .entry key v => (updateAt (putDotted key.last v key.init) d.current d.root).map fun root => { d with root }
  | .header key =>
    (updateAt (declare key.last) key.init d.root).map fun root => ⟨root, key.steps⟩
  | .element key =>
    (updateAt (append key.last) key.init d.root).map fun root => ⟨root, key.steps⟩

end Toml
end LedStrip
