import Metering.Settings.Basic
import Metering.Toml.Document

/-!
# Settings from a file

The text of a settings file is read as a document and the document as
settings; if either fails the file is malformed. A file that is loaded is
validated too.
-/

namespace Metering.Settings

/-- What is said of a file that cannot be read as settings. -/
def malformed : Error := .settingsMalformed "not a settings file"

/-- The settings that a text gives. -/
def ofText (s : String) : Except Error Settings :=
  match (Toml.read? s).bind (ofJson? .settings) with
  | some settings => .ok settings
  | none => .error malformed

/-- What is found under the path of a settings file. -/
inductive Found where
  | nothing
  /-- Something that cannot be read as text, and why. -/
  | unreadable (reason : String)
  | text (s : String)
deriving DecidableEq, Repr

/-- The valid settings in what is found under a path. -/
def load (path : String) : Found → Except Error Settings
  | .nothing => .error (.settingsNotFound path)
  | .unreadable reason => .error (.settingsUnreadable path reason)
  | .text s => do
    let settings ← ofText s
    settings.validate
    pure settings

end Metering.Settings
