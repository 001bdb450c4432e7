import UpdaterLaunch.Toml.Text
import UpdaterLaunch.Tree

/-! Numbers: whole ones in four bases, and others, of which only the reach matters here. A whole
number fits 64 bits with its sign. Another number may be as small as it likes, but a positive one
must not round to infinity as a binary number of 64 bits.
-/

namespace UpdaterLaunch.Toml

open UpdaterLaunch.Scan Text

/-- Numbers from here on round to infinity: half a unit above the largest of 53 binary digits. -/
def infinityBound : Nat := (1 <<< 1024) - (1 <<< 970)

/-- Whether decimal digits times a power of ten reach the bound of infinity. The count of decimal
places settles all but one case, in which the digits are compared with the bound.
-/
def reachesInfinity (digits : List Char) (exponent : Int) : Bool :=
  let digits := digits.dropWhile (· = '0')
  let places := digits.length + exponent
  if digits.isEmpty || places < 309 then false
  else if 309 < places then true
  else
    infinityBound * Nat.pow 10 (-exponent).toNat
      ≤ ofDigits 10 digits * Nat.pow 10 exponent.toNat

/-- Whether a digit is one of a base up to ten. -/
def isDigitOf (base : Nat) (c : Char) : Bool := c.isDigit && digitValue c < base

namespace Scan

/-- Takes digits, at least one, with single low lines between them. -/
def digitRun (isDigit : Char → Bool) : Scan (List Char) := do
  let first ← digit
  let more ← untilDone do
    if ← accept '_' then return ([← digit], false)
    let digits ← run isDigit
    return (digits, digits.isEmpty)
  return first :: more
where
  /-- Takes one digit. -/
  digit : Scan Char := do
    let c ← next
    ensure (isDigit c)
    return c

/-- Takes the digits of a number before its point; they start with a zero only if that is all. -/
def wholeDigits : Scan (List Char) := do
  if ← accept '0' then return ['0']
  digitRun Char.isDigit

/-- Takes a sign if there is one; whether it is a minus. -/
def minus : Scan Bool := do
  if ← accept '-' then return true
  let _ ← accept '+'
  return false

/-- A whole number, if it fits 64 bits with its sign. -/
def whole (negative : Bool) (magnitude : Nat) : Scan Tree := do
  ensure (if negative then magnitude ≤ 1 <<< 63 else magnitude < 1 <<< 63)
  return .whole (if negative then -magnitude else magnitude)

/-- Takes a whole number after the mark of its base. -/
def inBase (base : Nat) (isDigit : Char → Bool) : Scan Tree := do
  whole false (ofDigits base (← digitRun isDigit))

/-- Takes the power of ten that a number ends with. -/
def exponent : Scan Int := do
  let negative ← minus
  let magnitude : Nat := ofDigits 10 (← digitRun Char.isDigit)
  return if negative then -magnitude else magnitude

/-- Takes a number in base ten. -/
def decimal : Scan Tree := do
  let negative ← minus
  if ← acceptAll ['i', 'n', 'f'] then return .real
  if ← acceptAll ['n', 'a', 'n'] then return .real
  let digits ← wholeDigits
  let pointed ← accept '.'
  let places ← if pointed then digitRun Char.isDigit else pure []
  let scaled ← acceptOf ['e', 'E']
  let power ← if scaled then exponent else pure 0
  if pointed || scaled then
    ensure (negative || !reachesInfinity (digits ++ places) (power - places.length))
    return .real
  whole negative (ofDigits 10 digits)

/-- Takes a number. -/
def number : Scan Tree := do
  if ← acceptAll ['0', 'x'] then inBase 16 isHexDigit
  else if ← acceptAll ['0', 'o'] then inBase 8 (isDigitOf 8)
  else if ← acceptAll ['0', 'b'] then inBase 2 (isDigitOf 2)
  else decimal

end Scan

end UpdaterLaunch.Toml
