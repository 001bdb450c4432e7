/-! Digits and what they stand for.
-/

namespace UpdaterLaunch.Text

/-- Whether a character is a hexadecimal digit. -/
def isHexDigit (c : Char) : Bool :=
  c.isDigit || ('a' ≤ c && c ≤ 'f') || ('A' ≤ c && c ≤ 'F')

/-- The value of a hexadecimal digit. -/
def digitValue (d : Char) : Nat :=
  if d.isDigit then d.toNat - '0'.toNat
  else if 'a' ≤ d then d.toNat - 'a'.toNat + 10
  else d.toNat - 'A'.toNat + 10

/-- The number that digits stand for in a base. -/
def ofDigits (base : Nat) (digits : List Char) : Nat :=
  digits.foldl (fun n d => base * n + digitValue d) 0

/-- The character of a code point, if it is one. -/
def codePoint? (value : Nat) : Option Char :=
  if value.isValidChar then some (.ofNat value) else none

end UpdaterLaunch.Text
