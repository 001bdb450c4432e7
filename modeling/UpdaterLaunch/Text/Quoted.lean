import UpdaterLaunch.Text.Extending
import UpdaterLaunch.Text.Unprintable

/-! Quoted text for messages: whatever is in it, the reader sees which characters there are. What
has no picture of its own, or would join the character before it, is written by its number.
-/

namespace UpdaterLaunch.Text

/-- One character inside quotes. The two characters with a meaning there get a backslash, four
control characters have a letter, and an apostrophe needs no care.
-/
def escapeChar (c : Char) : List Char :=
  if c = '"' ∨ c = '\\' then ['\\', c]
  else if c = '\t' then ['\\', 't']
  else if c = '\r' then ['\\', 'r']
  else if c = '\n' then ['\\', 'n']
  else if c.toNat = 0 then ['\\', '0']
  else if isExtending c || isUnprintable c then
    ['\\', 'u', '\x7b'] ++ Nat.toDigits 16 c.toNat ++ ['\x7d']
  else [c]

/-- A text between quotes, each of its characters escaped where needed. -/
def quote (text : String) : String :=
  .ofList ('"' :: text.toList.flatMap escapeChar ++ ['"'])

end UpdaterLaunch.Text
