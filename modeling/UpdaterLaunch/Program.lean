import UpdaterLaunch.Config.File
import UpdaterLaunch.DryRun
import UpdaterLaunch.Environment.File
import UpdaterLaunch.LogFilter

/-! The program: it chooses a configuration, makes a dry run with it, and says what came of it.
-/

namespace UpdaterLaunch.Program

/-- What the program finds when it starts. -/
structure Setting where
  /-- The arguments after the program's own name. -/
  arguments : List String
  environment : Environment
  /-- The text of the file with further variables, if there is one. -/
  environmentFile : Option String
  /-- What is found under a path. -/
  lookUp : String → PathState
  /-- Whether there can be a log file in the directory for data. -/
  canLogToFile : Bool

/-- A line that the program itself puts into the log. -/
structure Line where
  level : Level
  message : String
  /-- How often the updater was launched, where that is told. -/
  launches : Option UInt32 := none
deriving DecidableEq

/-- The text of a line: its message and then its fields. -/
def Line.text (line : Line) : String :=
  match line.launches with
  | some launches => line.message ++ " launches=" ++ launches.toNat.repr
  | none => line.message

/-- The names of what a line holds. -/
def Line.fields (line : Line) : List String :=
  "message" :: (line.launches.map fun _ => "launches").toList

/-- Where the log goes. -/
inductive LogPlace
  /-- The program ended before there was a log. -/
  | nowhere
  /-- The log is shown only, as there can be no file for it. -/
  | console
  | consoleAndFile
deriving DecidableEq

/-- What the program has come to. -/
structure Result where
  exitCode : UInt32
  lines : List Line := []
  /-- What is told of an error, but for what has caused it. -/
  error : Option String := none
  log : LogPlace

/-- The program ends at once, without a word of its own. -/
def aborted : Result := { exitCode := 101, log := .nowhere }

/-- The target of the program's own lines. -/
def logTarget : String := "managed_provisioning"

/-- The variable with the filter of the log. -/
def filterVariable : String := "RUST_LOG"

/-- The environment together with the file of further variables, if all of them can be set. -/
def Setting.wholeEnvironment? (setting : Setting) : Option Environment :=
  match setting.environmentFile with
  | some text => EnvironmentFile.load? setting.environment text
  | none => some setting.environment

/-- The filter that is set, or else the standard one; a filter that is not well formed counts as
none, but there is nothing to go on with if its parts cannot be told.
-/
def filter? (environment : Environment) : Option LogFilter :=
  match (environment.get? filterVariable).map LogFilter.ofText with
  | none | some (.error .malformed) => some .standard
  | some (.error .torn) => none
  | some (.ok filter) => some filter

/-- The configuration, with what is to be said about where it is from. -/
def Setting.config (setting : Setting) (environment : Environment)
    : Except ConfigError (List Line × Config) :=
  match Config.path? setting.arguments (environment.get? Config.pathVariable) with
  | some path => (Config.load path (setting.lookUp path)).map ([], ·)
  | none =>
      .ok ([{ level := .info, message := "No config file given, using built-in defaults" }], {})

/-- What is to be said of a dry run. -/
def reportLine (report : DryRun.Report) : Line :=
  let launches := some report.launches
  match report.outcome with
  | some .updated => { level := .info, message := "Role holder updated", launches }
  | some .cancelled =>
      { level := .error, message := "Role holder update abandoned, falling back", launches }
  | none => { level := .info, message := "Role holder updater not started" }

/-- What is told if the log goes to no file. -/
def fallbackText : String := "Failed to initialize file logging, falling back to stdout"

/-- Runs the program on its variables, once its log is set up. What the filter hides is not in the
log.
-/
def Setting.runLogged (setting : Setting) (environment : Environment) (filter : LogFilter)
    : Result :=
  let log : LogPlace := if setting.canLogToFile then .consoleAndFile else .console
  let shown (lines : List Line) :=
    lines.filter fun line => filter.shows logTarget line.level line.fields
  match setting.config environment with
  | .error error => { exitCode := 1, error := some ("Error: " ++ error.message), log }
  | .ok (lines, config) =>
      match DryRun.run? (Host.ofConfig config) with
      | some (report, _) => { exitCode := 0, lines := shown (lines ++ [reportLine report]), log }
      | none => { exitCode := 1, lines := shown lines, log }

/-- Runs the program: it gathers its variables, sets up the log, and goes to work. -/
def run (setting : Setting) : Result :=
  match setting.wholeEnvironment? with
  | none => aborted
  | some environment =>
      match filter? environment with
      | none => aborted
      | some filter => setting.runLogged environment filter

end UpdaterLaunch.Program
