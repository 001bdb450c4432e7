/-! How deeply the parts of a pattern are nested.
-/

namespace UpdaterLaunch.Text.Pattern

/-- The height of parts in a row, or of alternatives: a part alone is not nested any deeper. -/
def joined : List Nat → Nat
  | [] => 0
  | [height] => height
  | heights => heights.foldl max 0 + 1

/-- The greatest height of a whole pattern. -/
def heightLimit : Nat := 250

end UpdaterLaunch.Text.Pattern
