import UpdaterLaunch.Text.Digits
import UpdaterLaunch.Toml.Blank

/-! The four kinds of text: between quotes, where a backslash starts an escape, or between
apostrophes, where it does not; each on one line, or over several lines between three of them. A
line end in a text is a line feed, however it is written.
-/

namespace UpdaterLaunch.Toml

open UpdaterLaunch.Scan Text

namespace Scan

/-- Takes an escape, of which the backslash is gone already. -/
def escape : Scan Char := do
  match ← next with
  | 'b' => return '\x08'
  | 't' => return '\t'
  | 'n' => return '\n'
  | 'f' => return '\x0c'
  | 'r' => return '\r'
  | '"' => return '"'
  | '\\' => return '\\'
  | 'u' => codePoint? (ofDigits 16 (← exactly 4 isHexDigit))
  | 'U' => codePoint? (ofDigits 16 (← exactly 8 isHexDigit))
  | _ => failure

/-- What starts an escape, in a text that has them. -/
def escapeMarks (escapes : Bool) : List Char := if escapes then ['\\'] else []

/-- Whether a character stands for itself in a text with the given mark at its end. -/
def isPlain (mark : Char) (escapes : Bool) (c : Char) : Bool :=
  isVisible c && c ≠ mark && !(escapeMarks escapes).contains c

/-- Takes the rest of a text that a single mark ends on the same line. -/
def singleLine (mark : Char) (escapes : Bool) : Scan (List Char) :=
  untilDone do
    if ← accept mark then return ([], true)
    if ← acceptOf (escapeMarks escapes) then return ([← escape], false)
    return (← run (isPlain mark escapes), false)

/-- Takes blanks and line ends after a backslash at the end of a line. -/
def joinLines : Scan Unit := do
  let _ ← untilDone (α := Unit) do
    blanks
    return ([], !(← lineEnd?))

/-- Takes the rest of a text that three marks end. One or two marks alone are part of the text, and
up to two may come right before the three that end it.
-/
def multiLine (mark : Char) (escapes : Bool) : Scan (List Char) := do
  let _ ← lineEnd?
  untilDone do
    let marks ← run (· = mark)
    if 0 < marks.length then
      ensure (marks.length ≤ 5)
      if marks.length < 3 then return (marks, false)
      return (marks.drop 3, true)
    if ← lineEnd? then return (['\n'], false)
    if ← acceptOf (escapeMarks escapes) then
      if joins (← get) then
        joinLines
        return ([], false)
      return ([← escape], false)
    return (← run (isPlain mark escapes), false)
where
  /-- Whether only blanks come before the end of the line. -/
  joins (rest : List Char) : Bool :=
    match rest.dropWhile isBlank with
    | '\n' :: _ | '\r' :: '\n' :: _ => true
    | _ => false

/-- Takes a text on one line. -/
def lineText : Scan (List Char) := do
  if ← accept '"' then singleLine '"' true
  else
    literal ['\'']
    singleLine '\'' false

/-- Takes a text of any kind. -/
def text : Scan String := do
  if ← acceptAll ['"', '"', '"'] then return .ofList (← multiLine '"' true)
  if ← acceptAll ['\'', '\'', '\''] then return .ofList (← multiLine '\'' false)
  return .ofList (← lineText)

end Scan

end UpdaterLaunch.Toml
