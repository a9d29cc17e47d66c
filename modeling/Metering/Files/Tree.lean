import Metering.Database
import Metering.Files.Path

/-!
# File trees

A file tree says what stands at which place: directories, texts, databases and
other files, each with the permissions it was made with. Places are named from
the root down. What is at a path is found step by step, as an operating system
does it, so that each way to fail has its own fault.
-/

namespace Metering

/-- Why a path could not be used. -/
inductive FileFault where
  | missing
  | present
  | notDirectory
  | isDirectory
deriving DecidableEq, Repr

/-- The system's words for a fault. -/
def FileFault.message : FileFault → String
  | .missing => "No such file or directory (os error 2)"
  | .present => "File exists (os error 17)"
  | .notDirectory => "Not a directory (os error 20)"
  | .isDirectory => "Is a directory (os error 21)"

inductive FileContent where
  | directory
  | text (s : String)
  /-- Bytes that are no text. -/
  | other
  | store (db : Database)
deriving DecidableEq, Repr

structure FileEntry where
  content : FileContent
  /-- The permission bits. -/
  mode : Nat
deriving DecidableEq, Repr

/-- What stands at which place. -/
structure FileTree where
  entries : List (List String × FileEntry)
deriving DecidableEq, Repr

namespace FileTree

def privateDirectoryMode : Nat := 0o700

def directoryMode : Nat := 0o755

def privateFileMode : Nat := 0o600

def fileMode : Nat := 0o644

/-- Nothing but the root. -/
def empty : FileTree := ⟨[([], ⟨.directory, directoryMode⟩)]⟩

def entry? (place : List String) (t : FileTree) : Option FileEntry :=
  t.entries.lookup place

def isDirectory (place : List String) (t : FileTree) : Bool :=
  (t.entry? place).any (·.content = .directory)

/-- Puts an entry at a place, over the one that stands there. -/
def put (place : List String) (e : FileEntry) (t : FileTree) : FileTree :=
  if (t.entry? place).isSome then
    ⟨t.entries.map fun f => if f.1 = place then (place, e) else f⟩
  else ⟨t.entries ++ [(place, e)]⟩

/-- The place one step on. A step is taken from a directory. -/
def step (t : FileTree) (here : List String) (name : String) : Except FileFault (List String) :=
  match t.entry? here with
  | none => .error .missing
  | some e =>
    if e.content ≠ .directory then .error .notDirectory
    else if name = "." then .ok here
    else if name = ".." then .ok here.dropLast
    else .ok (here ++ [name])

/-- The place at the end of some steps. It may be empty. -/
def walk (t : FileTree) (start steps : List String) : Except FileFault (List String) :=
  steps.foldlM t.step start

/-- Where a path starts. -/
def origin (here : List String) (path : String) : List String :=
  if Path.isAbsolute path then [] else here

/-- What a path leads to, from a directory. -/
def find (here : List String) (path : String) (t : FileTree) : Except FileFault FileEntry :=
  if path.isEmpty then .error .missing
  else do
    let place ← t.walk (origin here path) (Path.steps path)
    match t.entry? place with
    | some e => pure e
    | none => throw .missing

/-- Makes the directories that are missing on some steps, the last one with permissions of its
own. -/
def makeDirectories (lastMode : Nat) (here : List String) :
    List String → FileTree → Except FileFault FileTree
  | [], t => .ok t
  | name :: rest, t => do
    let place ← t.step here name
    match t.entry? place with
    | some e =>
      if e.content = .directory then makeDirectories lastMode place rest t
      else throw (if rest.isEmpty then .present else .notDirectory)
    | none =>
      let mode := if rest.isEmpty then lastMode else directoryMode
      makeDirectories lastMode place rest (t.put place ⟨.directory, mode⟩)

/-- Makes sure that there is a file to append a log to. A directory made for it and the file itself
are for their owner alone. -/
def openLog (here : List String) (path : String) (t : FileTree) : Except FileFault FileTree := do
  let start := origin here path
  let t ← match Path.parentSteps? path with
    | none => pure t
    | some steps => makeDirectories privateDirectoryMode start steps t
  if path.isEmpty then throw .missing
  if Path.endsInSlash path then throw .isDirectory
  let place ← t.walk start (Path.steps path)
  match t.entry? place with
  | some e => if e.content = .directory then throw .isDirectory else pure t
  | none => pure (t.put place ⟨.text "", privateFileMode⟩)

/-- The database at a path, made if there is none. An empty file is an empty database. -/
def openStore (here : List String) (path : String) (t : FileTree) :
    Except Error (Database × FileTree) :=
  let place := Path.place here path
  let cannot : Error := .database (.cannotOpen path)
  if ! t.isDirectory place.dropLast then .error cannot
  else
    match t.entry? place with
    | none => .ok (.empty, t.put place ⟨.store .empty, fileMode⟩)
    | some e =>
      match e.content with
      | .directory => .error cannot
      | .store db => .ok (db, t)
      | .text s =>
        if s.isEmpty then .ok (.empty, t.put place ⟨.store .empty, e.mode⟩)
        else .error (.database .notAStore)
      | .other => .error (.database .notAStore)

/-- Keeps a database at a path, where there is a file. -/
def saveStore (here : List String) (path : String) (db : Database) (t : FileTree) : FileTree :=
  let place := Path.place here path
  match t.entry? place with
  | some e => t.put place { e with content := .store db }
  | none => t

/-- The database at a path. -/
def store? (here : List String) (path : String) (t : FileTree) : Option Database :=
  match t.entry? (Path.place here path) with
  | some ⟨.store db, _⟩ => some db
  | _ => none

end FileTree

end Metering
