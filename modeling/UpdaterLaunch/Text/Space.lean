/-! Blanks of all scripts and line ends, and texts without those around them.
-/

namespace UpdaterLaunch.Text

/-- Whether a character has the property White_Space. -/
def isSpace (c : Char) : Bool :=
  ('\t' ≤ c && c ≤ '\r') || c = ' ' || c = '\u0085' || c = '\u00a0' || c = '\u1680'
    || ('\u2000' ≤ c && c ≤ '\u200a') || c = '\u2028' || c = '\u2029' || c = '\u202f'
    || c = '\u205f' || c = '\u3000'

/-- A text without the spaces before it. -/
def trimStart (text : List Char) : List Char := text.dropWhile isSpace

/-- A text without the spaces after it. -/
def trimEnd (text : List Char) : List Char := (text.reverse.dropWhile isSpace).reverse

/-- A text without the spaces around it. -/
def trim (text : List Char) : List Char := trimEnd (trimStart text)

end UpdaterLaunch.Text
