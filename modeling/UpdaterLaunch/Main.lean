import UpdaterLaunch.Program

/-! The command line: gathers what the program finds when it starts, and shows what it came to.
-/

namespace UpdaterLaunch.Main

/-- What is found under a path. -/
def lookUp (path : String) : IO PathState := do
  try
    return .file (← IO.FS.readBinFile path)
  catch _ => return .missing

/-- The text of a file, if it is there and holds text. -/
def readText? (path : String) : IO (Option String) := do
  match ← lookUp path with
  | .file content => return String.fromUTF8? content
  | _ => return none

/-- The text of the file with further variables: the one in the working directory, or else in the
nearest directory above it that has one.
-/
def environmentFile? : IO (Option String) := do
  let depth := ((← IO.currentDir).toString.splitOn "/").length
  (List.range depth).findSomeM? fun levels =>
    readText? (String.join (List.replicate levels "../") ++ ".env")

/-- The values of those of some variables that are set. -/
def environment (names : List String) : IO Environment := do
  let values ← names.filterMapM fun name => do
    return (← IO.getEnv name).map (name, ·)
  return { values }

/-- The words of a text that consist of some characters. -/
def words (inWord : Char → Bool) (text : String) : List String :=
  ((text.map fun c => if inWord c then c else ' ').splitOn " ").filter (· ≠ "")

/-- The names of variables that a text may mention: they are set, asked for after a dollar sign, or
asked for within braces.
-/
def namesIn (text : String) : List String :=
  words (fun c => c.isAlphanum || c == '_' || c == '.') text
    ++ words Text.isAlphanumeric text
    ++ words (fun c => c ≠ '\x7b' && c ≠ '\x7d' && c ≠ '=') text

/-- Opens the log file, if that is possible. -/
def openLog? : IO (Option IO.FS.Handle) := do
  let home := (← IO.getEnv "HOME").getD ""
  let base := (← IO.getEnv "XDG_DATA_HOME").getD (home ++ "/.local/share")
  let directory := base ++ "/managed-provisioning/logs"
  try
    IO.FS.createDirAll directory
    return some (← IO.FS.Handle.mk (directory ++ "/managed-provisioning.log") .append)
  catch _ => return none

end UpdaterLaunch.Main

open UpdaterLaunch in
/-- Runs the program on its arguments. -/
def main (arguments : List String) : IO UInt32 := do
  let environmentFile ← Main.environmentFile?
  let names := Config.pathVariable :: Program.filterVariable
    :: Main.namesIn (environmentFile.getD "")
  let setting : Program.Setting :=
    { arguments, environment := ← Main.environment names, environmentFile,
      lookUp := fun _ => .missing, canLogToFile := true }
  let whole := setting.wholeEnvironment?
  let log ← if (whole.bind Program.filter?).isSome then Main.openLog? else pure none
  let path := whole.bind fun environment =>
    Config.path? arguments (environment.get? Config.pathVariable)
  let found ← match path with
    | some path => Main.lookUp path
    | none => pure .missing
  let result := Program.run
    { setting with lookUp := fun _ => found, canLogToFile := log.isSome }
  if result.log = .console then IO.eprintln Program.fallbackText
  for line in result.lines do
    let text := line.level.name ++ " " ++ line.text
    IO.println text
    if let some file := log then file.putStrLn text
  if let some error := result.error then IO.eprintln error
  return result.exitCode
