import UpdaterLaunch.Total

/-! Places in a text, counted in the bytes of UTF-8. Not at each of them can a text be split, as a
character may take several bytes.
-/

namespace UpdaterLaunch.Text

/-- The bytes that a text takes. -/
def byteSize (text : List Char) : Nat := total Char.utf8Size text

/-- Splits a text after a number of bytes, if a character ends there. -/
def splitBytes? : Nat → List Char → Option (List Char × List Char)
  | 0, text => some ([], text)
  | _ + 1, [] => none
  | n + 1, c :: rest =>
      if c.utf8Size ≤ n + 1 then
        (splitBytes? (n + 1 - c.utf8Size) rest).map fun (front, back) => (c :: front, back)
      else none

/-- The part of a text between two places, if characters start at both. -/
def part? (text : List Char) (start stop : Nat) : Option (List Char) := do
  let (_, rest) ← splitBytes? start text
  let (part, _) ← splitBytes? (stop - start) rest
  return part

end UpdaterLaunch.Text
