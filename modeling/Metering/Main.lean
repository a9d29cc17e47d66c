import Metering.Archive
import Metering.CommandLine.Host
import Metering.Files.Tree
import Metering.Json.Pretty
import Std.Time.DateTime.Timestamp

/-!
# The program

The command line on a real machine. All that is decided is decided by
`CommandLine.run`; this module only gives it the machine's environment, files,
clock and randomness, and shows what comes out. A database is kept in its file
as the text that `Archive` makes of it.
-/

namespace Metering.Program

/-- The variables of the environment that matter. -/
def watched : List String :=
  [CommandLine.settingsVariable, CommandLine.databaseVariable, "XDG_CONFIG_HOME", "HOME"]

def environment : IO (String → Option String) := do
  let values ← watched.mapM fun name => do pure (name, ← IO.getEnv name)
  pure fun name => (values.lookup name).join

/-- Why a file could not be used, in the system's words where they are known. -/
def reason : IO.Error → String
  | .noFileOrDirectory .. => FileFault.missing.message
  | .alreadyExists .. => FileFault.present.message
  | .inappropriateType .. => FileFault.isDirectory.message
  | e => toString e

def look (path : String) : IO Settings.Found := do
  try
    pure (.text (← IO.FS.readFile path))
  catch e =>
    match e with
    | .noFileOrDirectory .. => pure .nothing
    | .userError _ => pure (.unreadable "stream did not contain valid UTF-8")
    | e => pure (.unreadable (reason e))

def ownerOnly (directory : Bool) : IO.FileRight :=
  ⟨⟨true, true, directory⟩, ⟨false, false, false⟩, ⟨false, false, false⟩⟩

/-- The path of the directory that the last name of a path stands in. -/
def parent? (path : String) : Option String :=
  match Path.parentSteps? path with
  | none => none
  | some [] => none
  | some names => some ((if Path.isAbsolute path then "/" else "") ++ "/".intercalate names)

/-- Makes a directory for its owner alone, unless it is there. -/
def makePrivateDirectory (path : String) : IO Unit := do
  match parent? path with
  | some above => IO.FS.createDirAll above
  | none => pure ()
  let made ← try
      IO.FS.createDir path
      pure true
    catch e =>
      match e with
      | .alreadyExists .. => pure false
      | e => throw e
  if made then IO.setAccessRights path (ownerOnly true)

def openLog (path : String) : IO (Except String Unit) := do
  try
    match parent? path with
    | some directory => makePrivateDirectory directory
    | none => pure ()
    let made ← try
        let _ ← IO.FS.Handle.mk path .writeNew
        pure true
      catch e =>
        match e with
        | .alreadyExists .. => pure false
        | e => throw e
    if made then IO.setAccessRights path (ownerOnly false)
    else
      let _ ← IO.FS.Handle.mk path .append
    pure (.ok ())
  catch e =>
    pure (.error (reason e))

def openStore (path : String) : IO (Except Error Database) := do
  try
    let _ ← IO.FS.Handle.mk path .append
    match Archive.read? (← IO.FS.readFile path) with
    | some db => pure (.ok db)
    | none => pure (.error (.database .notAStore))
  catch e =>
    match e with
    | .userError _ => pure (.error (.database .notAStore))
    | _ => pure (.error (.database (.cannotOpen path)))

def now : IO Int := do
  let t ← Std.Time.Timestamp.now
  pure t.toMillisecondsSinceUnixEpoch.val

/-- A random guid of the usual form, four of its bits saying that it is one. -/
def fresh : IO String := do
  let bytes ← IO.getRandomBytes 16
  let stamped := bytes.toList.zipIdx.map fun (b, i) =>
    if i = 6 then b.toNat % 16 + 64 else if i = 8 then b.toNat % 64 + 128 else b.toNat
  let digits := stamped.flatMap fun n =>
    [Json.Token.hexDigit (n / 16), Json.Token.hexDigit (n % 16)]
  let part (start count : Nat) : String := String.ofList ((digits.drop start).take count)
  pure ("-".intercalate [part 0 8, part 8 4, part 12 4, part 16 4, part 20 12])

def host : Host IO where
  environment := environment
  look := look
  openLog := openLog
  openStore := openStore
  saveStore path db := IO.FS.writeFile path (Archive.write db)
  now := now
  fresh := fresh
  task := pure 1

/-- What is shown when help is asked for, or the words make no command. -/
def usage : String :=
  "Usage: usage-ledger [OPTIONS] <init|snapshot|retention|consumer|events> ..."

/-- Shows an outcome. -/
def conclude (outcome : Outcome) : IO UInt32 := do
  match outcome with
  | .done answer => IO.println answer.pretty
  | .failed report => IO.eprint report
  | .stopped .help => IO.println usage
  | .stopped .misuse => IO.eprintln usage
  pure (UInt32.ofNat outcome.exitCode)

end Metering.Program

def main (words : List String) : IO UInt32 := do
  Metering.Program.conclude (← Metering.CommandLine.run Metering.Program.host words)
