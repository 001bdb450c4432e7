import UpdaterLaunch.Text.Alphanumeric
import UpdaterLaunch.Text.Pattern.Class

/-! Regular expressions: which texts are well formed ones that can do without tables of Unicode, and
match nothing but whole characters. Alternatives, groups, repetitions, classes of characters,
escapes and switches are known; a repetition with counts within braces is not.
-/

namespace UpdaterLaunch.Text.Pattern

open UpdaterLaunch.Scan

-----------------------------------------------------------------------------------------
-- What is open
-----------------------------------------------------------------------------------------

/-- A group that is not closed yet, or the whole pattern. -/
structure Level where
  mode : Mode
  /-- The heights of the items of the last alternative, the last item first. Switches alone are an
  item without a height, and cannot be repeated.
  -/
  items : List (Option Nat) := []
  /-- The heights of the alternatives before the last one. -/
  alternatives : List Nat := []

namespace Level

/-- The height of the last alternative so far. -/
def alternativeHeight (level : Level) : Nat := joined (level.items.map (·.getD 0))

/-- The height of all that has been read. -/
def height (level : Level) : Nat := joined (level.alternativeHeight :: level.alternatives)

/-- The level with an item more. -/
def add (level : Level) (item : Option Nat) : Level := { level with items := item :: level.items }

/-- The level at the start of another alternative. -/
def alternate (level : Level) : Level :=
  { level with items := [], alternatives := level.alternativeHeight :: level.alternatives }

/-- The level with its last item repeated, if it is there and no switches. -/
def repeat? (level : Level) : Option Level :=
  match level.items with
  | some height :: items => some { level with items := some (height + 1) :: items }
  | _ => none

end Level

/-- How far a pattern has been read. -/
structure Progress where
  level : Level
  /-- The levels around it, the innermost first. -/
  outer : List Level := []
  /-- The names of groups so far. -/
  names : List (List Char) := []

namespace Progress

/-- What has been read, with a change of the innermost level. -/
def within (progress : Progress) (level : Level) : Progress := { progress with level }

/-- What has been read, and then the start of a group. -/
def opened (progress : Progress) (mode : Mode) : Progress :=
  { progress with level := { mode }, outer := progress.level :: progress.outer }

/-- What has been read, and then the end of a group, if one is open. -/
def closed? (progress : Progress) : Option Progress :=
  match progress.outer with
  | [] => none
  | around :: outer =>
      some { progress with level := around.add (some (progress.level.height + 1)), outer }

end Progress

-----------------------------------------------------------------------------------------
-- Groups
-----------------------------------------------------------------------------------------

/-- Takes the name of a group, and the bracket after it. -/
def groupName : Scan (List Char) := do
  let name ← run fun c => c = '_' || c = '.' || c = '[' || c = ']' || isAlphanumeric c
  ensure (name.head?.any fun c => c = '_' || isAlphabetic c)
  literal ['>']
  return name

/-- Takes the start of a group after its bracket, or switches alone, which are no group. -/
def group (progress : Progress) : Scan Progress := do
  let level := progress.level
  level.mode.skip
  if !(← accept '?') then return progress.opened level.mode
  let named ← if ← acceptAll ['P', '<'] then pure true else accept '<'
  if named then
    let name ← groupName
    ensure !(progress.names.contains name)
    return { progress.opened level.mode with names := name :: progress.names }
  let switches ← run Mode.isSwitch
  let mode ← level.mode.switch? switches
  if ← accept ':' then return progress.opened mode
  literal [')']
  ensure !switches.isEmpty
  return progress.within { level.add none with mode }

-----------------------------------------------------------------------------------------
-- Whole patterns
-----------------------------------------------------------------------------------------

/-- Takes the next part of a pattern; whether it was the end. -/
def step (progress : Progress) : Scan (Progress × Bool) := do
  let level := progress.level
  let mode := level.mode
  mode.skip
  if ← atEnd then return (progress, true)
  let item (height : Nat) := (progress.within (level.add (some height)), false)
  match ← next with
  | '(' => return (← group progress, false)
  | ')' => return (← progress.closed?, false)
  | '|' => return (progress.within level.alternate, false)
  | '[' => return item (← charClass mode)
  | '?' | '*' | '+' =>
      let repeated ← level.repeat?
      let _ ← accept '?'
      return (progress.within repeated, false)
  | '{' => failure
  | '\\' =>
      escaped mode
      return item 0
  | '.' =>
      ensure mode.unicode
      return item 0
  | '^' | '$' => return item 0
  | _ =>
      ensure !mode.folds
      return item 0

/-- Whether a text is a well formed pattern, closed at its end and not nested too deeply. -/
def isWellFormed (text : List Char) : Bool :=
  match iterate step { level := { mode := {} } } text with
  | some (progress, _) => progress.outer.isEmpty && progress.level.height ≤ heightLimit
  | none => false

example : isWellFormed "a+(b|[^]x-z&&[-d-]])*?".toList = true := by decide +kernel
example : isWellFormed "(?x) a # (\n(?-u: \\d [[:alpha:]] ) *".toList = true := by decide +kernel
example : isWellFormed "(a".toList = false := by decide +kernel
example : isWellFormed "|*".toList = false := by decide +kernel
example : isWellFormed "\\d".toList = false := by decide +kernel
example : isWellFormed "(?i)a".toList = false := by decide +kernel

end UpdaterLaunch.Text.Pattern
