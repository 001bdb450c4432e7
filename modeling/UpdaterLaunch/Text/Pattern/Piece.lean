import UpdaterLaunch.Text.Digits
import UpdaterLaunch.Text.Pattern.Mode

/-! The smallest parts of a pattern: characters, kinds of characters, and places between characters,
as far as a backslash starts them. What a pattern cannot mean in its mode is refused here.
-/

namespace UpdaterLaunch.Text.Pattern

open UpdaterLaunch.Scan

/-- A smallest part of a pattern. -/
inductive Piece
  | char (value : Char)
  /-- A byte, by two hexadecimal digits. -/
  | byte (value : Char)
  /-- Any character of a kind, such as a digit. -/
  | kind
  /-- A place between characters, such as the end of the text. -/
  | place

/-- Takes a number of hexadecimal digits, and the spaces that may stand around them. -/
def hexDigits (mode : Mode) (count : Nat) : Scan (List Char) := do
  mode.skip
  (List.replicate count ()).mapM fun _ => do
    let digit ← next
    ensure (isHexDigit digit)
    mode.skip
    return digit

/-- Takes the character that a number of hexadecimal digits stand for. -/
def hexChar (mode : Mode) (count : Nat) : Scan Char := do
  codePoint? (ofDigits 16 (← hexDigits mode count))

/-- Takes what follows a backslash. Kinds of characters, and places at the edges of words, are known
of bytes only, and a kind has to keep to ASCII.
-/
def escape (mode : Mode) : Scan Piece := do
  match ← next with
  | 'x' => return .byte (← hexChar mode 2)
  | 'u' => return .char (← hexChar mode 4)
  | 'U' => return .char (← hexChar mode 8)
  | 'a' => return .char '\x07'
  | 'f' => return .char '\x0c'
  | 't' => return .char '\t'
  | 'n' => return .char '\n'
  | 'r' => return .char '\r'
  | 'v' => return .char '\x0b'
  | 'd' | 's' | 'w' =>
      ensure !mode.unicode
      return .kind
  | 'A' | 'z' => return .place
  | 'b' | 'B' | '<' | '>' =>
      ensure !mode.unicode
      return .place
  | c =>
      ensure (c.toNat < 0x80 && !c.isAlphanum)
      return .char c

/-- Takes what follows a backslash outside classes. A byte has to be a character of its own. -/
def escaped (mode : Mode) : Scan Unit := do
  match ← escape mode with
  | .char _ => ensure !mode.folds
  | .byte value => ensure (!mode.folds && (mode.unicode || value.toNat < 0x80))
  | .kind | .place => return ()

end UpdaterLaunch.Text.Pattern
