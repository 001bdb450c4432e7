import UpdaterLaunch.Toml.Text

/-! Dates and times. Only whether one is well formed matters: what it says is not kept.
-/

namespace UpdaterLaunch.Toml

open UpdaterLaunch.Scan Text

/-- Whether a year has a 29th of February. -/
def isLeap (year : Nat) : Bool := year % 4 = 0 && (year % 100 ≠ 0 || year % 400 = 0)

/-- The number of days in a month. -/
def daysIn (year month : Nat) : Nat :=
  if month = 2 then if isLeap year then 29 else 28
  else if [4, 6, 9, 11].contains month then 30
  else 31

namespace Scan

/-- Whether the next characters are of the given classes, one by one. -/
def fits (classes : List (Char → Bool)) : Scan Bool := fun input =>
  let taken := input.take classes.length
  some (taken.length = classes.length && (classes.zip taken).all fun (inClass, c) => inClass c,
    input)

/-- Takes a number of so many digits, within bounds. -/
def within (count least most : Nat) : Scan Nat := do
  let n := ofDigits 10 (← exactly count Char.isDigit)
  ensure (least ≤ n && n ≤ most)
  return n

/-- Takes a date: a year, a month and a day that there was. -/
def date : Scan Unit := do
  let year ← within 4 0 9999
  literal ['-']
  let month ← within 2 1 12
  literal ['-']
  let _ ← within 2 1 (daysIn year month)

/-- Takes hours and minutes. -/
def hoursAndMinutes : Scan Unit := do
  let _ ← within 2 0 23
  literal [':']
  let _ ← within 2 0 59

/-- Takes a time of the day, with seconds and perhaps a part of one; there may be a leap second. -/
def time : Scan Unit := do
  hoursAndMinutes
  literal [':']
  let _ ← within 2 0 60
  if ← accept '.' then
    ensure !(← run Char.isDigit).isEmpty

/-- Takes how far a time is off the universal one, if it is said. -/
def offset : Scan Unit := do
  if ← acceptOf ['Z', 'z'] then return
  if ← acceptOf ['+', '-'] then hoursAndMinutes

/-- Takes a date or a time or both, if what comes next is meant as one; whether it is. A blank
after a date belongs to it only if a time follows.
-/
def moment? : Scan Bool := do
  let digit := Char.isDigit
  if ← fits [digit, digit, digit, digit, (· = '-')] then
    date
    if ← fits [(['T', 't', ' '].contains ·), digit, digit, (· = ':')] then
      let _ ← next
      time
      offset
    return true
  if ← fits [digit, digit, (· = ':')] then
    time
    return true
  return false

end Scan

end UpdaterLaunch.Toml
