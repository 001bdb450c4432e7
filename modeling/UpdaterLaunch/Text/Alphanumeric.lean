import UpdaterLaunch.Text.Alphabetic
import UpdaterLaunch.Text.Numeric

/-! Letters and numbers of all scripts.
-/

namespace UpdaterLaunch.Text

/-- Whether a character is a letter or a number of some script. -/
def isAlphanumeric (c : Char) : Bool := isAlphabetic c || isNumeric c

end UpdaterLaunch.Text
