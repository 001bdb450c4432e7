import UpdaterLaunch.Toml.Value

/-! Documents in the format of configuration files: lines with keys and their values, and headers,
which say what table the keys below them belong to. Reading one gives a table, or nothing if it is
not well formed; what is wrong with it is not told.
-/

namespace UpdaterLaunch.Toml

open UpdaterLaunch.Scan

/-- A line that says something. -/
inductive Statement
  /-- From here on the keys belong to a table of this name. -/
  | table (key : Key)
  /-- From here on the keys belong to one more table in the list of this name. -/
  | element (key : Key)
  | entry (key : Key) (value : Tree)

namespace Scan

/-- Takes a statement with its line. -/
def statement : Scan Statement := do
  if ← acceptAll ['[', '['] then
    let key ← key
    literal [']', ']']
    restOfLine
    return .element key
  if ← accept '[' then
    let key ← key
    literal [']']
    restOfLine
    return .table key
  let (key, value) ← entry (value depthLimit)
  restOfLine
  return .entry key value

/-- Takes all statements of a document. -/
def statements : Scan (List Statement) := do
  let _ ← accept '\ufeff'
  untilDone do
    blanks
    if ← atEnd then return ([], true)
    if (← sees ['#']) || (← sees ['\n']) || (← sees ['\r']) then
      restOfLine
      return ([], false)
    return ([← statement], false)

end Scan

/-- A document as far as it was read: all its fields, and the table that keys belong to now. -/
structure Draft where
  fields : Fields := []
  current : List String := []

namespace Draft

/-- Adds a statement, if it goes along with what is there. -/
def add? (draft : Draft) : Statement → Option Draft
  | .table key => do
      return { fields := ← draft.fields.openTable? key, current := key.path ++ [key.last] }
  | .element key => do
      return { fields := ← draft.fields.addTable? key, current := key.path ++ [key.last] }
  | .entry key value => do
      let fields ← Fields.within? .passing (fun _ fields => fields.put? key value) draft.current
        .header draft.fields
      return { draft with fields }

end Draft

/-- Reads a document. -/
def parse (text : String) : Option Tree := do
  let (statements, _) ← StateT.run Scan.statements text.toList
  let draft ← statements.foldlM Draft.add? {}
  return .table (fieldTrees draft.fields)

end UpdaterLaunch.Toml
