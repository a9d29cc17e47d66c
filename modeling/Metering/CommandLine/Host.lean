import Metering.CommandLine.Perform
import Metering.Files.Path
import Metering.Remedy
import Metering.Settings.File

/-!
# Running a command line

A command line is run on a host, which is what the program needs of the
machine around it: its environment, its files, its clock and a supply of
guids. The steps are the same on every host. The words are read, the settings
are found and checked, the log is set up, the database is opened, and the
command is performed on it. Each step may be the last.
-/

namespace Metering

/-- What a command line needs of the machine it is run on. -/
structure Host (m : Type → Type) where
  environment : m (String → Option String)
  /-- What is found under the path of a settings file. -/
  look : String → m Settings.Found
  /-- Makes sure that a log can be appended to a file, or says why it cannot. -/
  openLog : String → m (Except String Unit)
  /-- Opens the database at a path. -/
  openStore : String → m (Except Error Database)
  saveStore : String → Database → m Unit
  /-- Milliseconds since 1970. -/
  now : m Int
  /-- A guid that is not in use. -/
  fresh : m String
  /-- The number of the next task. -/
  task : m Nat

/-- What comes of running a command line. -/
inductive Outcome where
  | done (answer : Json)
  /-- The command failed, with what the user is told. -/
  | failed (report : String)
  | stopped (why : CommandLine.Stop)
deriving Repr

namespace Outcome

/-- The number that the program ends with. -/
def exitCode : Outcome → Nat
  | .done _ => 0
  | .failed _ => 1
  | .stopped .help => 0
  | .stopped .misuse => 2

end Outcome

namespace CommandLine

/-- Why an invocation failed. -/
inductive Failure where
  | error (e : Error)
  /-- There is no log file, and why. -/
  | log (reason : String)

/-- What a user is told of a failure. -/
def Failure.report : Failure → String
  | .error e => e.report ++ "\n"
  | .log reason =>
    "Error: failed to initialize logging: failed to create log file: " ++ reason ++ ": " ++
      reason ++ "\n"

/-- The directory of a user's settings. -/
def settingsDirectory? (environment : String → Option String) : Option String :=
  match (environment "XDG_CONFIG_HOME").filter Path.isAbsolute with
  | some path => some path
  | none =>
    ((environment "HOME").filter fun home => ! home.isEmpty).map fun home =>
      Path.join home ".config"

/-- The place of a user's settings file. -/
def defaultSettings? (environment : String → Option String) : Option String :=
  (settingsDirectory? environment).map fun directory =>
    Path.join (Path.join directory "usage-ledger") "config.toml"

/-- Settings with what the words of the command line say about them. -/
def override (i : Invocation) (s : Settings) : Settings :=
  { s with
    storage := { s.storage with path := i.database.getD s.storage.path }
    logging := { s.logging with
      format := i.logFormat.getD s.logging.format
      level := i.logLevel.getD s.logging.level } }

/-- Whether all who open a database by this path see the same one. -/
def isShared (path : String) : Bool :=
  ! path.isEmpty && path ≠ ":memory:"

variable {m : Type → Type} [Monad m]

/-- The settings from a file, or the defaults if no file is named and a user has none. -/
def loadSettings (host : Host m) (environment : String → Option String) (named : Option String) :
    m (Except Error Settings) := do
  match named with
  | some path => return Settings.load path (← host.look path)
  | none =>
    match defaultSettings? environment with
    | none => return .ok .default
    | some path =>
      match ← host.look path with
      | .nothing => return .ok .default
      | found => return Settings.load path found

/-- Performs a command on the database that the settings name. -/
def performOn (host : Host m) (s : Settings) (command : Command) : ExceptT Failure m Json := do
  let path := s.storage.path
  let shared := isShared path
  let opened : Except Error Database ← if shared then host.openStore path else pure (.ok .empty)
  let db ← match opened >>= Database.install with
    | .ok db => pure db
    | .error e => throw (.error e)
  let circumstances : Circumstances :=
    { settings := s, now := ← host.now, fresh := ← host.fresh, shared := shared
      task := ← host.task }
  let (answer, db) := command.perform circumstances db
  if shared then host.saveStore path db
  match answer with
  | .ok j => pure j
  | .error e => throw (.error e)

/-- Runs an invocation. -/
def runInvocation (host : Host m) (environment : String → Option String) (i : Invocation) :
    ExceptT Failure m Json := do
  let loaded ← (loadSettings host environment i.settings : m (Except Error Settings))
  let settings ← match loaded with
    | .ok s => pure (override i s)
    | .error e => throw (.error e)
  match settings.validate with
  | .ok () => pure ()
  | .error e => throw (.error e)
  if let some path := settings.logging.file then
    match ← host.openLog path with
    | .ok () => pure ()
    | .error reason => throw (.log reason)
  performOn host settings i.command

/-- Runs the words of a command line. -/
def run (host : Host m) (words : List String) : m Outcome := do
  let environment ← host.environment
  match parse environment words with
  | .error why => return .stopped why
  | .ok i =>
    match ← (runInvocation host environment i).run with
    | .ok answer => return .done answer
    | .error failure => return .failed failure.report

end CommandLine

end Metering
