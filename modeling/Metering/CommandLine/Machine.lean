import Metering.CommandLine.Host
import Metering.Files.Tree

/-!
# A machine in memory

A host whose files, environment, clock and next guid are one value. Running a
command line on it is a function from machines to machines, so what a command
leaves behind can be looked at and reasoned about.
-/

namespace Metering

structure Machine where
  files : FileTree
  /-- The working directory. -/
  here : List String
  environment : List (String × String)
  now : Int
  /-- The next new guid. -/
  fresh : String
  /-- The number of the next task. -/
  task : Nat
deriving Repr

namespace Machine

/-- What the machine has under a path, for a reader of settings. -/
def look (path : String) (machine : Machine) : Settings.Found :=
  match machine.files.find machine.here path with
  | .error _ => .nothing
  | .ok e =>
    match e.content with
    | .directory => .unreadable FileFault.isDirectory.message
    | .text s => .text s
    | _ => .unreadable "stream did not contain valid UTF-8"

def host : Host (StateM Machine) where
  environment := do
    let machine ← get
    pure fun name => machine.environment.lookup name
  look path := do pure ((← get).look path)
  openLog path := do
    let machine ← get
    match machine.files.openLog machine.here path with
    | .ok files => set { machine with files := files }; pure (.ok ())
    | .error fault => pure (.error fault.message)
  openStore path := do
    let machine ← get
    match machine.files.openStore machine.here path with
    | .ok (db, files) => set { machine with files := files }; pure (.ok db)
    | .error e => pure (.error e)
  saveStore path db :=
    modify fun machine =>
      { machine with files := machine.files.saveStore machine.here path db }
  now := do pure (← get).now
  fresh := do pure (← get).fresh
  task := do pure (← get).task

/-- Runs the words of a command line. -/
def run (words : List String) (machine : Machine) : Outcome × Machine :=
  (CommandLine.run host words).run machine

end Machine

end Metering
