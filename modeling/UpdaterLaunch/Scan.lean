/-! Reading text from the front: a scan takes characters off a list and gives a value, or fails.
All repetition goes through `iterate`, which ends because every round but the last takes at least
one character.
-/

namespace UpdaterLaunch

/-- A scan of characters. -/
abbrev Scan (α : Type) := StateT (List Char) Option α

namespace Scan

/-- Takes the next character. -/
def next : Scan Char := fun
  | [] => none
  | c :: rest => some (c, rest)

/-- Takes the next character if it is one of the given ones; whether it was. -/
def acceptOf (choices : List Char) : Scan Bool := fun
  | [] => some (false, [])
  | c :: rest => if choices.contains c then some (true, rest) else some (false, c :: rest)

/-- Takes the next character if it is the given one; whether it was. -/
def accept (c : Char) : Scan Bool := acceptOf [c]

/-- Takes the given characters if they come next, one by one; whether they did. -/
def acceptAll (expected : List Char) : Scan Bool := fun input =>
  if expected.isPrefixOf input then some (true, input.drop expected.length)
  else some (false, input)

/-- Whether the given characters come next. -/
def sees (expected : List Char) : Scan Bool := fun input =>
  some (expected.isPrefixOf input, input)

/-- Takes all characters of a class that come next. -/
def run (inClass : Char → Bool) : Scan (List Char) := fun input =>
  some (input.takeWhile inClass, input.dropWhile inClass)

/-- Takes exactly so many characters of a class. -/
def exactly (count : Nat) (inClass : Char → Bool) : Scan (List Char) := fun input =>
  let taken := input.take count
  if taken.length = count ∧ taken.all inClass then some (taken, input.drop count) else none

/-- Whether the text is at its end. -/
def atEnd : Scan Bool := fun input => some (input.isEmpty, input)

/-- Goes on only if a condition holds. -/
def ensure (condition : Bool) : Scan Unit := fun input =>
  if condition then some ((), input) else none

/-- Takes the given characters, which have to come next. -/
def literal (expected : List Char) : Scan Unit := do ensure (← acceptAll expected)

/-- Repeats a round, which makes a state into the next one and says whether it was the last. A round
that is not the last has to take something.
-/
def iterate {σ : Type} (round : σ → Scan (σ × Bool)) (state : σ) (input : List Char)
    : Option (σ × List Char) :=
  match round state input with
  | none => none
  | some ((state, true), rest) => some (state, rest)
  | some ((state, false), rest) =>
      if rest.length < input.length then iterate round state rest else none
termination_by input.length

/-- Repeats a round until it says that it was the last, and puts together what the rounds found. -/
def untilDone {α : Type} (round : Scan (List α × Bool)) : Scan (List α) := do
  let found ← iterate (fun found => do
    let (more, done) ← round
    return (more.reverse ++ found, done)) []
  return found.reverse

end Scan

end UpdaterLaunch
