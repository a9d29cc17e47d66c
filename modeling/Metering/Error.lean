import Metering.Kind

/-!
# What can go wrong

Every operation that can fail says why with one of these causes. The wording
is in one place, `Error.message`, which puts the area of the library in front
of what happened there. The cause of a failed generation is an error itself,
and its message ends the message of the failure.

One of the causes is no answer. Where a sum leaves its word there is nothing
to answer with, and the call ends there, its callers with it.
-/

namespace Metering

/-- Why the store turned a request down. -/
inductive StoreFault where
  /-- Another row already has these values in these columns. -/
  | unique (columns : List String)
  /-- A row names, or is named by, a row that is not there, or would not be. -/
  | foreignKey
  | notNull (column : String)
  /-- A value is none of those its column admits. -/
  | check (rule : String)
  /-- The row is guarded against deletion. -/
  | guarded
  | missingTable (name : String)
  | cannotOpen (path : String)
  | notAStore
  /-- A stored text is not the name of an event state. -/
  | unknownState (text : String)
  /-- A stored value is not of the type its column declares. -/
  | wrongType (found : String) (index : Nat) (column : String)
  | noRows
deriving DecidableEq, Repr

def StoreFault.message : StoreFault → String
  | .unique columns => "UNIQUE constraint failed: " ++ ", ".intercalate columns
  | .foreignKey => "FOREIGN KEY constraint failed"
  | .notNull column => "NOT NULL constraint failed: " ++ column
  | .check rule => "CHECK constraint failed: " ++ rule
  | .guarded => "guarded"
  | .missingTable name => "no such table: " ++ name
  | .cannotOpen path => "unable to open database file: " ++ path
  | .notAStore => "file is not a database"
  | .unknownState text => "Conversion error from type Text at index: 3, " ++ EventState.unknown text
  | .wrongType found index column =>
    "Invalid column type " ++ found ++ " at index: " ++ toString index ++ ", name: " ++ column
  | .noRows => "Query returned no rows"

inductive Error where
  | database (fault : StoreFault)
  | schemaTooNew (current supported : Int)
  | notFound (what : String)
  | invalidConsumer (field problem : String)
  | consumerNotFound (consumer : String)
  | generationInProgress (kind : String)
  | alreadyComplete (guid : String)
  | stillProcessing (guid : String)
  | snapshotNotFound (guid : String)
  | generationFailed (guid : String) (cause : Error)
  | estimationFailed (table reason : String)
  | deletionFailed (table reason : String)
  | settingsNotFound (path : String)
  | settingsUnreadable (path reason : String)
  | settingsMalformed (detail : String)
  | settingsInvalid (problems : String)
  | io (detail : String)
  | json (detail : String)
  | runtime (detail : String)
  /-- A sum that its word does not hold. No one handles it, short of the task that a job is. -/
  | overflow
deriving DecidableEq, Repr

namespace Error

/-- The wording of an error. -/
def message : Error → String
  | .database fault => "Storage error: Database error: " ++ fault.message
  | .schemaTooNew current supported =>
    "Storage error: Database schema version (" ++ toString current ++
      ") is newer than supported (" ++ toString supported ++ ")"
  | .notFound what => "Storage error: Not found: " ++ what
  | .invalidConsumer field problem =>
    "Consumer error: Validation failed for " ++ field ++ ": " ++ problem
  | .consumerNotFound consumer => "Consumer error: Consumer not found: " ++ consumer
  | .generationInProgress kind =>
    "Snapshot error: A " ++ kind ++ " usage snapshot is already being generated"
  | .alreadyComplete guid => "Snapshot error: Snapshot " ++ guid ++ " has already completed"
  | .stillProcessing guid => "Snapshot error: Snapshot " ++ guid ++ " is still processing"
  | .snapshotNotFound guid => "Snapshot error: Snapshot not found: " ++ guid
  | .generationFailed guid cause =>
    "Snapshot error: Generation of snapshot " ++ guid ++ " failed: " ++ cause.message
  | .estimationFailed table reason =>
    "Retention error: Failed to estimate row count for " ++ table ++ ": " ++ reason
  | .deletionFailed table reason =>
    "Retention error: Failed to delete rows from " ++ table ++ ": " ++ reason
  | .settingsNotFound path => "Config error: Config file not found: " ++ path
  | .settingsUnreadable path reason =>
    "Config error: Failed to read config file " ++ path ++ ": " ++ reason
  | .settingsMalformed detail => "Config error: Failed to parse config: " ++ detail
  | .settingsInvalid problems => "Config error: Validation error: " ++ problems
  | .io detail => "I/O error: " ++ detail
  | .json detail => "JSON error: " ++ detail
  | .runtime detail => "Runtime error: " ++ detail
  | .overflow => "attempt to add with overflow"

/-- The error at the bottom of a chain of failed generations. -/
def innermost : Error → Error
  | .generationFailed _ cause => cause.innermost
  | e => e

/-- Whether a consumer was refused for a value it gave. -/
def isValidationFailure : Error → Bool
  | .invalidConsumer .. => true
  | _ => false

/-- A text that should be a document and is not. -/
def malformedDocument : Error := .json "malformed document"

end Error

/-- Two steps succeed if the first does, and the second after it. -/
theorem bind_eq_ok {α β : Type} {x : Except Error α} {f : α → Except Error β} {b : β} :
    (x >>= f) = .ok b ↔ ∃ a, x = .ok a ∧ f a = .ok b := by
  cases x with
  | error e => simp [bind, Except.bind]
  | ok a => simp [bind, Except.bind]

end Metering
