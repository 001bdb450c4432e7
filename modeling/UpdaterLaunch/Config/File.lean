import UpdaterLaunch.Config
import UpdaterLaunch.Toml

/-! Configuration files: which one is read, and what it holds.
-/

namespace UpdaterLaunch

/-- What is found under a path. -/
inductive PathState
  | missing
  | directory
  | file (content : ByteArray)

/-- Why there is no configuration. -/
inductive ConfigError
  /-- There is no file under the path, or it holds no text. -/
  | unreadable (path : String)
  /-- The text is no document, or not one of a configuration. -/
  | malformed (path : String)
deriving DecidableEq

/-- The text shown for an error. -/
def ConfigError.message : ConfigError → String
  | unreadable path => "Failed to read config file: " ++ path
  | malformed path => "Failed to parse config file: " ++ path

namespace Config

/-- The variable that names the file if no argument does. -/
def pathVariable : String := "MP_CONFIG"

/-- The path of the file: the first argument, or else the variable. An empty path is none, and an
empty argument hides the variable.
-/
def path? (arguments : List String) (fromEnvironment : Option String) : Option String :=
  (arguments.head?.or fromEnvironment).filter (· ≠ "")

/-- Reads the text of a configuration file. -/
def ofText? (text : String) : Option Config := do ofTree? .ignored (← Toml.parse text)

/-- Reads what is found under a path. -/
def load (path : String) (state : PathState) : Except ConfigError Config :=
  match state with
  | .missing | .directory => .error (.unreadable path)
  | .file content =>
      match String.fromUTF8? content with
      | none => .error (.unreadable path)
      | some text =>
          match ofText? text with
          | none => .error (.malformed path)
          | some config => .ok config

end Config

end UpdaterLaunch
