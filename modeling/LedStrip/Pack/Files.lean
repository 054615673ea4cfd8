import LedStrip.Pack.Source

/-!
# Files

`FileSystem m` is what the library asks of the file system.  `FileTree` is one that lives in a value: files under their
path, folders implied by the files in them.
-/

namespace LedStrip

/-- Why a file operation failed. -/
inductive FileFault where
  | notFound
  | isDirectory
  | notDirectory
  | alreadyExists
  | notText
  | other (reason : String)
deriving DecidableEq, Repr

namespace FileFault

def message : FileFault → String
  | notFound => "No such file or directory (os error 2)"
  | isDirectory => "Is a directory (os error 21)"
  | notDirectory => "Not a directory (os error 20)"
  | alreadyExists => "File exists (os error 17)"
  | notText => "stream did not contain valid UTF-8"
  | other reason => reason

end FileFault

class FileSystem (m : Type → Type) where
  readText : String → m (Except FileFault String)
  pathExists : String → m Bool
  /-- Make a folder and all folders above it. -/
  createFolders : String → m (Except FileFault Unit)
  writeText : String → String → m (Except FileFault Unit)

/-- The texts below a directory. -/
def Source.ofDirectory {m : Type → Type} [Monad m] [FileSystem m] (root : String) : Source m where
  location := root
  fetch r := do
    match resolveIn root r with
    | .error e => return .error e
    | .ok path =>
      match ← FileSystem.readText path with
      | .ok text => return .ok text
      | .error .notFound => return .error (.notFound r)
      | .error fault => return .error (.io r fault.message)

/-- The source at a location: a directory, as far as this build goes. -/
def Source.atLocation {m : Type → Type} [Monad m] [FileSystem m] (location : String) :
    Except FetchError (Source m) :=
  if Text.startsWith "http://" location || Text.startsWith "https://" location then
    .error (.unsupported location)
  else .ok (Source.ofDirectory location)

/-! ### A file system in a value -/

structure FileTree where
  /-- Names from the root down to a file, and its bytes. -/
  files : List (List String × ByteArray)

namespace FileTree

/-- What is found at a path. -/
inductive Found where
  | file (bytes : ByteArray)
  | folder
  | nothing
  /-- A file stands where a folder would have to be. -/
  | blocked

/-- Names of a path, steps up taken. -/
def names (path : String) : List String :=
  (pathParts path).foldl (fun ns p =>
    match p with
    | .name s => ns ++ [s]
    | .up => ns.dropLast
    | .root => ["/"]
    | .here => ns) []

def isFolder (t : FileTree) (ns : List String) : Bool :=
  ns.isEmpty || t.files.any fun f => ns.isPrefixOf f.1 && ns != f.1

def file? (t : FileTree) (ns : List String) : Option ByteArray := (t.files.find? (·.1 == ns)).map (·.2)

def find (t : FileTree) (path : String) : Found :=
  let ns := names path
  let above := (List.range ns.length).map ns.take
  if above.any fun p => (t.file? p).isSome then .blocked
  else
    match t.file? ns with
    | some bytes => if Text.endsWith "/" path then .blocked else .file bytes
    | none => if t.isFolder ns then .folder else .nothing

/-- Put a file at a path. -/
def put (t : FileTree) (path : String) (bytes : ByteArray) : FileTree :=
  let ns := names path
  ⟨t.files.filter (·.1 != ns) ++ [(ns, bytes)]⟩

def remove (t : FileTree) (path : String) : FileTree := ⟨t.files.filter (·.1 != names path)⟩

/-- What the system refuses in a path before it looks. -/
def badPath? (path : String) : Option FileFault :=
  if path.toList.contains '\x00' then some (.other "file name contained an unexpected NUL byte")
  else if (Text.pieces '/' path).any fun s => 255 < s.utf8ByteSize then
    some (.other "File name too long (os error 36)")
  else none

def readText (t : FileTree) (path : String) : Except FileFault String :=
  match badPath? path with
  | some fault => .error fault
  | none =>
    match t.find path with
    | .file bytes =>
      match String.fromUTF8? bytes with
      | some s => .ok s
      | none => .error .notText
    | .folder => .error .isDirectory
    | .nothing => .error .notFound
    | .blocked => .error .notDirectory

instance : FileSystem (StateM FileTree) where
  readText path := do return (← get).readText path
  pathExists path := do
    match (← get).find path with
    | .file _ => return true
    | .folder => return true
    | _ => return false
  createFolders path := do
    match (← get).find path with
    | .file _ => return .error .alreadyExists
    | .blocked => return .error .notDirectory
    | _ => return .ok ()
  writeText path text := do
    match (← get).find path with
    | .folder => return .error .isDirectory
    | .blocked => return .error .notDirectory
    | _ =>
      modify (·.put path text.toUTF8)
      return .ok ()

end FileTree
end LedStrip
