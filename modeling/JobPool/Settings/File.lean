import JobPool.Settings.Reader
import JobPool.FileTree

/-!
Settings in a file. A report names the path and the reason; the reason is also available on its own,
since a report is a message followed by the messages of its causes.
-/

namespace JobPool.Settings

/-- Why there are no settings. -/
inductive LoadError where
  | unreadable (path : String) (reason : FileError)
  | refused (text : String) (stop : Json.Stop Complaint)

namespace LoadError

/-- The report of an error. -/
def message : LoadError → String
  | unreadable path reason => "could not read config " ++ path ++ ": " ++ reason.message
  | refused text stop => "invalid dispatcher config: " ++ report text stop

/-- The cause behind the report. -/
def cause : LoadError → String
  | unreadable _ reason => reason.message
  | refused text stop => report text stop

/-- The report followed by its cause. -/
def chain (e : LoadError) : String := e.message ++ ": " ++ e.cause

end LoadError

/-- Reads settings from a text. -/
def load (text : String) : Except LoadError Settings :=
  match ofText text with
  | .ok settings => .ok settings
  | .error stop => .error (.refused text stop)

/-- Reads settings from what was read at a path. -/
def loadRead (path : String) : Except FileError String → Except LoadError Settings
  | .ok text => load text
  | .error reason => .error (.unreadable path reason)

/-- Reads settings from a file. -/
def loadFile (fs : FileSystem) (path : String) : Except LoadError Settings :=
  loadRead path (fs.readText path)

end JobPool.Settings
