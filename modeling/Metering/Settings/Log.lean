import Metering.Json.Record

/-!
# Log settings

What is logged, in which format, and into which file besides the standard
error stream. The level is kept as the text that was given for it: whether it
names a level is a question for `Settings.validate`, so that all that is wrong
with a settings file is said at once.
-/

namespace Metering

inductive LogFormat where
  | pretty
  | json
deriving DecidableEq, Repr, Inhabited

namespace LogFormat

def all : List LogFormat := [.pretty, .json]

def name : LogFormat → String
  | .pretty => "pretty"
  | .json => "json"

/-- The format with exactly this name. -/
def ofName? (s : String) : Option LogFormat :=
  all.find? (·.name = s)

/-- The format with this name in either case. -/
def parse (s : String) : Except String LogFormat :=
  match ofName? s.toLower with
  | some format => .ok format
  | none => .error ("unknown log format: " ++ s ++ ". Expected pretty or json")

end LogFormat

/-- How much is logged, from all to only what fails. -/
inductive LogLevel where
  | trace
  | debug
  | info
  | warn
  | error
deriving DecidableEq, Repr, Inhabited

namespace LogLevel

def all : List LogLevel := [.trace, .debug, .info, .warn, .error]

def name : LogLevel → String
  | .trace => "trace"
  | .debug => "debug"
  | .info => "info"
  | .warn => "warn"
  | .error => "error"

/-- Levels rise with the weight of what they let through. -/
def rank : LogLevel → Nat
  | .trace => 0
  | .debug => 1
  | .info => 2
  | .warn => 3
  | .error => 4

/-- The level with exactly this name; warnings have two. -/
def ofName? (s : String) : Option LogLevel :=
  if s = "warning" then some .warn else all.find? (·.name = s)

/-- The level with this name in either case. -/
def parse (s : String) : Except String LogLevel :=
  match ofName? s.toLower with
  | some level => .ok level
  | none =>
    .error ("unknown log level: " ++ s ++ ". Expected one of: trace, debug, info, warn, error")

end LogLevel

structure LogSettings where
  level : String
  format : LogFormat
  /-- A file that the log is appended to. -/
  file : Option String
deriving DecidableEq, Repr

namespace LogSettings

def default : LogSettings := ⟨"info", .pretty, none⟩

instance : Inhabited LogSettings := ⟨default⟩

/-- A text or null. -/
def file? : Json → Option (Option String)
  | .null => some none
  | j => j.text?.map some

def ofJson? (d : Json.Dialect) (j : Json) : Option LogSettings := do
  let f ← j.fieldsOf? d ["level", "format", "file"]
  pure {
    level := ← f.defaulted "level" default.level Json.text?
    format := ← f.defaulted "format" default.format (Json.choice? d LogFormat.ofName?)
    file := ← f.defaulted "file" default.file file? }

def toJson (s : LogSettings) : Json :=
  .obj [("level", .str s.level),
    ("format", .str s.format.name),
    ("file", Json.ofOption .str s.file)]

end LogSettings

end Metering
