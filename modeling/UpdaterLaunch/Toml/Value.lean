import UpdaterLaunch.Toml.Item
import UpdaterLaunch.Toml.Moment
import UpdaterLaunch.Toml.Number

/-! Values: texts, numbers, moments, flags, lists and tables on one line, the last two of which
hold values in turn, up to a depth.
-/

namespace UpdaterLaunch.Toml

open UpdaterLaunch.Scan

/-- How deep lists and tables may stand in one another. -/
def depthLimit : Nat := 79

namespace Scan

/-- Takes a value that holds no other values. -/
def scalar : Scan Tree := do
  if (← sees ['"']) || (← sees ['\'']) then return .text (← text)
  if ← acceptAll ['t', 'r', 'u', 'e'] then return .flag true
  if ← acceptAll ['f', 'a', 'l', 's', 'e'] then return .flag false
  if ← moment? then return .moment
  number

/-- Takes the rest of a list, which may go over several lines and have a comma at its end. -/
def listRest (value : Scan Tree) : Scan (List Tree) :=
  untilDone do
    blankLines
    if ← accept ']' then return ([], true)
    let item ← value
    blankLines
    if ← accept ',' then return ([item], false)
    literal [']']
    return ([item], true)

/-- Takes a key and its value. -/
def entry (value : Scan Tree) : Scan (Key × Tree) := do
  let key ← key
  literal ['=']
  blanks
  let value ← value
  blanks
  return (key, value)

/-- Takes the entries of a table on one line, with no comma after the last one. -/
def entries (value : Scan Tree) : Scan (List (Key × Tree)) := do
  blanks
  if ← accept '\x7d' then return []
  untilDone do
    let entry ← entry value
    if ← accept ',' then return ([entry], false)
    literal ['\x7d']
    return ([entry], true)

/-- Takes a value, in which lists and tables stand no deeper than given. -/
def value : Nat → Scan Tree
  | 0 => scalar
  | depth + 1 => do
      if ← accept '[' then return .list (← listRest (value depth))
      if ← accept '\x7b' then
        let entries ← entries (value depth)
        return .table (fieldTrees (← Fields.ofEntries? entries))
      scalar

end Scan

end UpdaterLaunch.Toml
