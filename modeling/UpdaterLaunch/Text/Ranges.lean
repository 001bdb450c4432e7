/-! Sets of code points as lists of ranges. -/

namespace UpdaterLaunch.Text

/-- Whether a character lies in one of the ranges, ends included. -/
def inRanges (ranges : List (Nat × Nat)) (c : Char) : Bool :=
  ranges.any fun (first, last) => first ≤ c.toNat && c.toNat ≤ last

/-- The ranges rise and do not meet. -/
def Rising : List (Nat × Nat) → Bool
  | (first, last) :: (next, stop) :: rest =>
      first ≤ last && last < next && Rising ((next, stop) :: rest)
  | [(first, last)] => first ≤ last
  | [] => true

end UpdaterLaunch.Text
