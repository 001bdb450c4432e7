import UpdaterLaunch.Scan
import UpdaterLaunch.Text.Space

/-! The modes in which a pattern is read. Switches within a pattern change the mode up to the end of
the group that they stand in.
-/

namespace UpdaterLaunch.Text.Pattern

open UpdaterLaunch.Scan

/-- How a part of a pattern is read. -/
structure Mode where
  /-- Whether the pattern is about characters, or else about bytes. -/
  unicode : Bool := true
  /-- Whether small and capital letters are the same. -/
  caseless : Bool := false
  /-- Whether spaces and remarks may stand between the parts of a pattern. -/
  spaced : Bool := false

namespace Mode

/-- Whether small and capital letters are to be the same in all scripts, which nothing is known
about here: no character can be told in this mode.
-/
def folds (mode : Mode) : Bool := mode.unicode && mode.caseless

/-- Takes spaces and remarks up to their line end, if there may be any. -/
def skip (mode : Mode) : Scan Unit := do
  if mode.spaced then
    iterate (fun _ => do
      let _ ← run isSpace
      if ← accept '#' then
        let _ ← run (· ≠ '\n')
        return ((), false)
      return ((), true)) ()

/-- The character behind a hyphen that tells whether this joins a range: the next one, past spaces
and the sign of one remark if there may be any.
-/
def beyondHyphen (mode : Mode) (rest : List Char) : Option Char :=
  if mode.spaced then
    match rest.dropWhile isSpace with
    | '#' :: remark => (remark.dropWhile isSpace).head?
    | visible => visible.head?
  else rest.head?

-----------------------------------------------------------------------------------------
-- Switches
-----------------------------------------------------------------------------------------

/-- Whether a character can be part of switches. -/
def isSwitch (c : Char) : Bool := ['i', 'm', 's', 'R', 'U', 'u', 'x', '-'].contains c

/-- The mode after switches, of which those behind a hyphen switch off. None may come twice, and
none is missing behind the hyphen.
-/
def switch? (mode : Mode) (switches : List Char) : Option Mode :=
  if switches.all (switches.count · = 1) && switches.getLast? ≠ some '-' then
    let on := switches.takeWhile (· ≠ '-')
    let set (switch : Char) (before : Bool) :=
      if switches.contains switch then on.contains switch else before
    some
      { unicode := set 'u' mode.unicode
        caseless := set 'i' mode.caseless
        spaced := set 'x' mode.spaced }
  else none

end Mode

end UpdaterLaunch.Text.Pattern
