import Metering.CommandLine.Grammar
import Metering.Decimal.Whole
import Metering.Event
import Metering.Settings.Log
import Metering.Word

/-!
# Commands

Every command of the program, the words that name it, and the options that go
with all of them. A word for a kind or a state is read as users write it; a
path must not be empty.
-/

namespace Metering

inductive Command where
  | init
  | createSnapshot (kind : Kind) (generate : Bool)
  | generateSnapshot (guid : String)
  | showSnapshot (guid : String)
  | listSnapshots (kind : Option Kind) (offset limit : Nat)
  | showChunks (guid : String) (offset limit : Nat)
  | deleteSnapshot (guid : String)
  /-- Without an age, the one from the settings is taken. -/
  | cleanSnapshots (kind : Kind) (days : Option Nat)
  | runRetention (kind : Kind) (dry : Bool)
  | registerConsumer (kind : Kind) (consumer watermark : String)
  | showConsumer (kind : Kind) (consumer : String)
  | updateConsumer (kind : Kind) (consumer watermark : String)
  | deregisterConsumer (kind : Kind) (consumer : String)
  | listConsumers (kind : Kind)
  /-- The payload is a text that still has to be read. -/
  | appendEvent (kind : Kind) (event : NewEvent) (payload : Option String)
  | tailEvents (kind : Kind) (after : Option String) (limit : Nat)
deriving Repr

/-- A command with the options that go with every command. -/
structure Invocation where
  command : Command
  settings : Option String
  database : Option String
  logFormat : Option LogFormat
  logLevel : Option String
deriving Repr

namespace CommandLine

/-! ## Values -/

def kind? (s : String) : Option Kind := (Kind.parse s).toOption

def state? (s : String) : Option EventState := (EventState.parse s).toOption

def format? (s : String) : Option LogFormat := (LogFormat.parse s).toOption

def number? (s : String) : Option Nat := Decimal.unsigned? Word.max s

def age? (s : String) : Option Nat := Decimal.nonnegative? Word.max32 s

def anyText : Check := fun _ => true

def isPath : Check := fun s => ! s.isEmpty

def isKind : Check := fun s => (kind? s).isSome

def isNumber : Check := fun s => (number? s).isSome

/-! ## Options -/

/-- The variable of the environment that names the settings file. -/
def settingsVariable : String := "USAGE_LEDGER_CONFIG"

/-- The variable of the environment that names the database. -/
def databaseVariable : String := "USAGE_LEDGER_DB"

def settingsOption : OptionRule := ⟨"config", some isPath, some settingsVariable⟩

def databaseOption : OptionRule := ⟨"db", some isPath, some databaseVariable⟩

def formatOption : OptionRule := ⟨"log-format", some fun s => (format? s).isSome, none⟩

def levelOption : OptionRule := ⟨"log-level", some anyText, none⟩

/-- The options that go with every command. -/
def sharedOptions : List OptionRule :=
  [settingsOption, databaseOption, formatOption, levelOption]

def textOption (name : String) : OptionRule := ⟨name, some anyText, none⟩

def numberOption (name : String) : OptionRule := ⟨name, some isNumber, none⟩

def switch (name : String) : OptionRule := ⟨name, none, none⟩

namespace Level

/-- An optional value: what is given must be one. -/
def optional {α : Type} (name : String) (read : String → Option α) (l : Level) :
    Option (Option α) :=
  match l.option? name with
  | none => some none
  | some s => (read s).map some

def numberOr (name : String) (default : Nat) (l : Level) : Option Nat :=
  (l.optional name number?).map (·.getD default)

def place (n : Nat) (l : Level) : Option String := l.places[n]?

def kind (l : Level) : Option Kind := (l.place 0).bind kind?

end Level

/-! ## The grammar of the commands -/

/-- A command with places and options, none of which is required. -/
def simple (places : List Check) (options : List OptionRule) (meaning : Level → Option Command) :
    Grammar Command :=
  .command ⟨options, [], [], places⟩ meaning

def pageOptions : List OptionRule := [numberOption "offset", numberOption "limit"]

def snapshotCommands : List (String × Grammar Command) :=
  [("create", simple [isKind] [switch "no-generate"] fun l => do
      pure (.createSnapshot (← l.kind) (! l.has "no-generate"))),
    ("generate", simple [anyText] [] fun l => do pure (.generateSnapshot (← l.place 0))),
    ("show", simple [anyText] [] fun l => do pure (.showSnapshot (← l.place 0))),
    ("list", simple [] (⟨"kind", some isKind, none⟩ :: pageOptions) fun l => do
      pure (.listSnapshots (← l.optional "kind" kind?) (← l.numberOr "offset" 0)
        (← l.numberOr "limit" 50))),
    ("chunks", simple [anyText] pageOptions fun l => do
      pure (.showChunks (← l.place 0) (← l.numberOr "offset" 0) (← l.numberOr "limit" 50))),
    ("delete", simple [anyText] [] fun l => do pure (.deleteSnapshot (← l.place 0))),
    ("cleanup", simple [isKind] [⟨"days", some fun s => (age? s).isSome, none⟩] fun l => do
      pure (.cleanSnapshots (← l.kind) (← l.optional "days" age?)))]

def retentionCommands : List (String × Grammar Command) :=
  [("run", simple [isKind] [switch "dry-run"] fun l => do
      pure (.runRetention (← l.kind) (l.has "dry-run")))]

def consumerCommands : List (String × Grammar Command) :=
  [("register", simple [isKind, anyText, anyText] [] fun l => do
      pure (.registerConsumer (← l.kind) (← l.place 1) (← l.place 2))),
    ("show", simple [isKind, anyText] [] fun l => do
      pure (.showConsumer (← l.kind) (← l.place 1))),
    ("update", simple [isKind, anyText, anyText] [] fun l => do
      pure (.updateConsumer (← l.kind) (← l.place 1) (← l.place 2))),
    ("deregister", simple [isKind, anyText] [] fun l => do
      pure (.deregisterConsumer (← l.kind) (← l.place 1))),
    ("list", simple [isKind] [] fun l => do pure (.listConsumers (← l.kind)))]

/-- The form of the command that appends an event: an organization goes with a space. -/
def appendForm : Form where
  options := ⟨"state", some fun s => (state? s).isSome, none⟩ ::
    ["guid", "name", "org", "space", "space-name", "payload"].map textOption
  required := ["state"]
  together := [("org", "space"), ("space", "org")]
  places := [isKind, anyText]

def appendMeaning (l : Level) : Option Command := do
  let state ← (l.option? "state").bind state?
  let event : NewEvent := { NewEvent.of state (← l.place 1) with
    guid := l.option? "guid"
    resourceName := l.option? "name"
    org := l.option? "org"
    space := l.option? "space"
    spaceName := l.option? "space-name" }
  pure (.appendEvent (← l.kind) event (l.option? "payload"))

def eventCommands : List (String × Grammar Command) :=
  [("append", .command appendForm appendMeaning),
    ("tail", simple [isKind] [textOption "after", numberOption "limit"] fun l => do
      pure (.tailEvents (← l.kind) (l.option? "after") (← l.numberOr "limit" 100)))]

def grammar : Grammar Command :=
  .group [("init", simple [] [] fun _ => some .init),
    ("snapshot", .group snapshotCommands),
    ("retention", .group retentionCommands),
    ("consumer", .group consumerCommands),
    ("events", .group eventCommands)]

/-- The invocation that the words of a command line and the environment make. -/
def parse (environment : String → Option String) (words : List String) :
    Except Stop Invocation := do
  let (command, levels) ← read environment sharedOptions true grammar .start words
  let given (rule : OptionRule) : Option String := shared? environment rule levels
  pure {
    command := command
    settings := given settingsOption
    database := given databaseOption
    logFormat := (given formatOption).bind format?
    logLevel := given levelOption }

end CommandLine

end Metering
