import UpdaterLaunch.Text.Pattern.Height
import UpdaterLaunch.Text.Pattern.Piece

/-! Classes of characters within brackets. They may be nested, and joined by doubled signs. Of bytes
a class may hold those of ASCII only, so none may be negated there.
-/

namespace UpdaterLaunch.Text.Pattern

open UpdaterLaunch.Scan

-----------------------------------------------------------------------------------------
-- The members of a class
-----------------------------------------------------------------------------------------

/-- Whether a character can be told in a class of this mode. -/
def Mode.admits (mode : Mode) (c : Char) : Bool :=
  !mode.folds && (mode.unicode || c.toNat < 0x80)

/-- Whether a class can be negated, or not, in this mode. -/
def Mode.admitsNegation (mode : Mode) (negated : Bool) : Bool := mode.unicode || !negated

/-- Takes a character of a class, if it is one, or a kind of characters. -/
def classPiece (mode : Mode) : Scan (Option Char) := do
  let piece ← if ← accept '\\' then escape mode else Piece.char <$> next
  match piece with
  | .char value | .byte value =>
      ensure (mode.admits value)
      return some value
  | .kind => return none
  | .place => failure

/-- Whether a hyphen comes that joins the ends of a range. -/
def joinsRange (mode : Mode) : List Char → Bool
  | '-' :: rest => !(['-', ']'].any (mode.beyondHyphen rest = some ·))
  | _ => false

/-- Takes a member of a class: a character, a kind of characters, or a range that does not fall. -/
def classMember (mode : Mode) : Scan Unit := do
  let first ← classPiece mode
  mode.skip
  if joinsRange mode (← get) then
    let _ ← next
    mode.skip
    match first, ← classPiece mode with
    | some low, some high => ensure (low ≤ high)
    | _, _ => failure

/-- The names of classes within ASCII. -/
def asciiClassNames : List String :=
  ["alnum", "alpha", "ascii", "blank", "cntrl", "digit", "graph", "lower", "print", "punct",
    "space", "upper", "word", "xdigit"]

/-- Takes a class by its name, together with both brackets; whether it is negated. -/
def namedClass : Scan Bool := do
  literal ['[', ':']
  let negated ← accept '^'
  let name ← run (· ≠ ':')
  ensure (asciiClassNames.contains (.ofList name))
  literal [':', ']']
  return negated

-----------------------------------------------------------------------------------------
-- Whole classes
-----------------------------------------------------------------------------------------

/-- A class that is not closed yet. -/
structure Brackets where
  /-- The heights of the members since the last doubled sign, the last member first. -/
  members : List Nat
  /-- The height of all that is on the left of that sign, if there was one. -/
  left : Option Nat := none

/-- The height of what has been read of a class. -/
def Brackets.height (brackets : Brackets) : Nat :=
  match brackets.left with
  | none => joined brackets.members
  | some left => max left (joined brackets.members) + 1

/-- The class with a member more, of a height. -/
def Brackets.add (brackets : Brackets) (height : Nat) : Brackets :=
  { brackets with members := height :: brackets.members }

/-- Takes what may come first in a class, after its bracket: a sign of negation, then hyphens that
stand for themselves, or else a bracket that does.
-/
def classStart (mode : Mode) : Scan Brackets := do
  mode.skip
  let negated ← accept '^'
  ensure (mode.admitsNegation negated)
  mode.skip
  let hyphens ← untilDone do
    if ← accept '-' then
      mode.skip
      return ([0], false)
    return ([], true)
  let members ←
    match hyphens with
    | [] => if ← accept ']' then pure [0] else pure []
    | hyphens => pure hyphens
  ensure (members.isEmpty || mode.admits '-')
  return { members }

/-- Takes the next part of a class within others; whether the outermost class was closed by it. -/
def classStep (mode : Mode) (brackets : Brackets) (outer : List Brackets)
    : Scan (Brackets × List Brackets × Bool) := do
  mode.skip
  if ← sees ['['] then
    match ← (some <$> namedClass) <|> pure none with
    | some negated =>
        ensure (!mode.folds && mode.admitsNegation negated)
        return (brackets.add 0, outer, false)
    | none =>
        let _ ← next
        return (← classStart mode, brackets :: outer, false)
  if ← accept ']' then
    match outer with
    | [] => return (brackets, [], true)
    | enclosing :: outer => return (enclosing.add (brackets.height + 1), outer, false)
  for sign in ['&', '-', '~'] do
    if ← acceptAll [sign, sign] then
      return ({ members := [], left := some brackets.height }, outer, false)
  classMember mode
  return (brackets.add 0, outer, false)

/-- Takes a class, after its bracket; its height. -/
def charClass (mode : Mode) : Scan Nat := do
  let start ← classStart mode
  let (brackets, _) ← iterate (fun (brackets, outer) => do
    let (brackets, outer, closed) ← classStep mode brackets outer
    return ((brackets, outer), closed)) (start, [])
  return brackets.height + 1

end UpdaterLaunch.Text.Pattern
