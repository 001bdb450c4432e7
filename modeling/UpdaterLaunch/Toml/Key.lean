import UpdaterLaunch.Toml.Text

/-! Keys: names joined by dots, each one bare or in quotes on one line, with blanks around it.
-/

namespace UpdaterLaunch.Toml

open UpdaterLaunch.Scan

/-- The characters of a bare name. -/
def isBare (c : Char) : Bool :=
  c.isDigit || ('a' ≤ c && c ≤ 'z') || ('A' ≤ c && c ≤ 'Z') || c = '_' || c = '-'

/-- A key has fewer names than this. -/
def keyLimit : Nat := 80

/-- A key: names to pass through, and the last one. -/
structure Key where
  path : List String
  last : String
deriving DecidableEq, Repr

namespace Key

/-- The key of some names in order, of which there is at least one. -/
def ofNames? (names : List String) : Option Key :=
  names.getLast?.map fun last => { path := names.dropLast, last }

end Key

namespace Scan

/-- Takes one name. -/
def name : Scan String := do
  if (← sees ['"']) || (← sees ['\'']) then return .ofList (← lineText)
  let bare ← run isBare
  ensure !bare.isEmpty
  return .ofList bare

/-- Takes a key, with the blanks around it. -/
def key : Scan Key := do
  let names ← untilDone do
    blanks
    let name ← name
    blanks
    return ([name], !(← accept '.'))
  ensure (names.length < keyLimit)
  Key.ofNames? names

end Scan

end UpdaterLaunch.Toml
