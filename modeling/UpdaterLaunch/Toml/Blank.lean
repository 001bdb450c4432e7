import UpdaterLaunch.Scan

/-! What may stand between the parts of a document: blanks, line ends and comments. -/

namespace UpdaterLaunch.Toml

open UpdaterLaunch.Scan

/-- The two characters that count as blanks within a line. -/
def isBlank (c : Char) : Bool := c = ' ' || c = '\t'

/-- The characters of a comment, and of a text without its quotes: tabs, and all characters that
are no control characters of the first 128.
-/
def isVisible (c : Char) : Bool := c = '\t' || (' ' ≤ c && c ≠ '\x7f')

namespace Scan

/-- Takes blanks. -/
def blanks : Scan Unit := do let _ ← run isBlank

/-- Takes a line end if there is one, with or without a carriage return; whether there was. -/
def lineEnd? : Scan Bool := fun
  | '\n' :: rest => some (true, rest)
  | '\r' :: '\n' :: rest => some (true, rest)
  | input => some (false, input)

/-- Takes a comment if there is one, up to the end of its line; whether there was. -/
def comment? : Scan Bool := do
  if ← accept '#' then
    let _ ← run isVisible
    return true
  return false

/-- Takes what may follow at the end of a line, and the line end, which may be that of the text. -/
def restOfLine : Scan Unit := do
  blanks
  let _ ← comment?
  if ← lineEnd? then return
  ensure (← atEnd)

/-- Takes blanks, line ends and comments, as they may stand inside of an array. -/
def blankLines : Scan Unit := do
  let _ ← untilDone (α := Unit) do
    blanks
    let commented ← comment?
    if ← lineEnd? then return ([], false)
    ensure !commented
    return ([], true)

end Scan

end UpdaterLaunch.Toml
