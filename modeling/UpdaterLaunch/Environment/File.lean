import UpdaterLaunch.Environment
import UpdaterLaunch.Text.Alphanumeric
import UpdaterLaunch.Text.Space

/-! Files that set variables: lines with a name, an equals sign and a value. A value may be in
quotes and go over several lines, may hold other variables after a dollar sign, and may be followed
by a comment. The lines before the first one that is not well formed count.
-/

namespace UpdaterLaunch.EnvironmentFile

open Text

-----------------------------------------------------------------------------------------
-- Splitting a text into lines
-----------------------------------------------------------------------------------------

/-- Where in a line a character stands. -/
inductive Place
  | open
  | afterSpace
  | escaped
  | strong
  | strongEscaped
  | weak
  | weakEscaped
deriving DecidableEq

/-- The place after a character. -/
def Place.next : Place → Char → Place
  | .escaped, _ => .open
  | .strongEscaped, _ => .strong
  | .weakEscaped, _ => .weak
  | .strong, c => if c = '\\' then .strongEscaped else if c = '\'' then .open else .strong
  | .weak, c => if c = '\\' then .weakEscaped else if c = '"' then .open else .weak
  | place, c =>
      if c = '\\' then .escaped
      else if c = '"' then .weak
      else if c = '\'' then .strong
      else if place = .open ∧ isSpace c ∧ c ≠ '\n' ∧ c ≠ '\r' then .afterSpace
      else .open

/-- A line without the mark of its end, given in reverse. -/
def dropLineEnd : List Char → List Char
  | '\n' :: '\r' :: line | '\n' :: line | line => line.reverse

/-- Splits a line off: it ends where a line end is not within quotes, or with a comment. There is
no line if the text ends within quotes or after a space.
-/
def line? (place : Place) (taken : List Char) : List Char → Option (List Char × List Char)
  | [] => if place = .open then some (taken.reverse, []) else none
  | c :: rest =>
      if place = .afterSpace ∧ c = '#' then
        some (taken.reverse, (rest.dropWhile (· ≠ '\n')).drop 1)
      else if c = '\n' ∧ place.next c = .open then some (dropLineEnd (c :: taken), rest)
      else line? (place.next c) (c :: taken) rest

/-- A line takes at least one character off a text that has one. -/
theorem length_of_line? {place : Place} {taken text line rest : List Char}
    (h : line? place taken text = some (line, rest))
    : rest.length ≤ text.length - 1 := by
  fun_induction line? place taken text with
  | case1 => obtain ⟨-, rfl⟩ := Prod.mk.inj (Option.some.inj h); simp
  | case2 => simp at h
  | case3 place taken c tail =>
      obtain ⟨-, rfl⟩ := Prod.mk.inj (Option.some.inj h)
      have := (tail.dropWhile_sublist (· ≠ '\n')).length_le
      simp only [List.length_drop, List.length_cons] at *
      omega
  | case4 => obtain ⟨-, rfl⟩ := Prod.mk.inj (Option.some.inj h); simp
  | case5 _ _ _ _ _ _ ih =>
      have := ih h
      simp only [List.length_cons]
      omega

-----------------------------------------------------------------------------------------
-- Names and values
-----------------------------------------------------------------------------------------

/-- How a value goes on, and within weak quotes or not where both may be. -/
inductive Mode
  | plain
  | weak
  | strong
  | escaped (weak : Bool)
  | reference (weak : Bool) (name : List Char)
  | braced (weak : Bool) (name : List Char)
  /-- After a blank only a comment may follow. -/
  | ending

/-- The mode outside of everything but weak quotes. -/
def Mode.base (weak : Bool) : Mode := if weak then .weak else .plain

/-- The value of a variable whose name is given in reverse; nothing if it is not set. -/
def substitute (environment : Environment) (name : List Char) : List Char :=
  ((environment.textAfter? (.ofList name.reverse)).getD "").toList

/-- What a character after a backslash stands for. -/
def unescape? : Char → Option Char
  | 'n' => some '\n'
  | c => if ['\\', '\'', '"', '$', ' '].contains c then some c else none

/-- Reads a value: what it stands for is given in reverse as it comes along. -/
def value? (environment : Environment) (taken : List Char) : Mode → List Char → Option String
  | .reference false name, [] => some (.ofList (taken.reverse ++ substitute environment name))
  | .plain, [] | .escaped false, [] | .ending, [] => some (.ofList taken.reverse)
  | _, [] => none
  | .ending, c :: rest =>
      if c = ' ' ∨ c = '\t' then value? environment taken .ending rest
      else if c = '#' then some (.ofList taken.reverse)
      else none
  | .escaped weak, c :: rest => do
      value? environment ((← unescape? c) :: taken) (.base weak) rest
  | .strong, c :: rest =>
      if c = '\'' then value? environment taken .plain rest
      else value? environment (c :: taken) .strong rest
  | .reference weak name, c :: rest =>
      if isAlphanumeric c then value? environment taken (.reference weak (c :: name)) rest
      else if c = '\x7b' ∧ name = [] then value? environment taken (.braced weak []) rest
      else
        let taken := (substitute environment name).reverse ++ taken
        if c = '$' then value? environment taken (.reference weak []) rest
        else value? environment (c :: taken) (.base weak) rest
  | .braced weak name, c :: rest =>
      if c = '\x7d' then
        value? environment ((substitute environment name).reverse ++ taken) (.base weak) rest
      else value? environment taken (.braced weak (c :: name)) rest
  | .weak, c :: rest =>
      if c = '$' then value? environment taken (.reference true []) rest
      else if c = '"' then value? environment taken .plain rest
      else if c = '\\' then value? environment taken (.escaped true) rest
      else value? environment (c :: taken) .weak rest
  | .plain, c :: rest =>
      if c = '$' then value? environment taken (.reference false []) rest
      else if c = '\'' then value? environment taken .strong rest
      else if c = '"' then value? environment taken .weak rest
      else if c = '\\' then value? environment taken (.escaped false) rest
      else if c = ' ' ∨ c = '\t' then value? environment taken .ending rest
      else value? environment (c :: taken) .plain rest

/-- Takes a name from the front of a line, and the spaces after it. -/
def name? : List Char → Option (String × List Char)
  | [] => none
  | first :: rest =>
      if first.isAlpha ∨ first = '_' then
        let inName (c : Char) := c.isAlphanum || c = '_' || c = '.'
        some (.ofList (first :: rest.takeWhile inName),
          (rest.dropWhile inName).dropWhile isSpace)
      else none

/-- The name that a line sets, and what comes after the equals sign. The word export may stand
before the name.
-/
def head? (line : List Char) : Option (String × List Char) := do
  match ← name? line with
  | (name, '=' :: rest) => return (name, rest)
  | ("export", rest) =>
      let (name, '=' :: rest) ← name? rest | none
      return (name, rest)
  | _ => none

-----------------------------------------------------------------------------------------
-- Whole files
-----------------------------------------------------------------------------------------

/-- Reads a line: a name and its value. An empty line, or one with a comment alone, sets nothing. -/
def setting? (environment : Environment) (line : List Char)
    : Option (Option (String × String)) :=
  let bare (text : List Char) := text.head?.all (· = '#')
  let line := trim line
  if bare line then some none
  else do
    let (name, rest) ← head? line
    let rest := trimStart rest
    if bare rest then return some (name, "")
    return some (name, ← value? environment [] .plain rest)

/-- Whether a line has nothing but a comment. -/
def isComment (text : List Char) : Bool :=
  (text.dropWhile fun c => isSpace c && c ≠ '\n').head? = some '#'

/-- The environment after the lines of a text, up to the first one that is not well formed. There is
none if a line sets a value that no variable can have.
-/
def loadLines? (environment : Environment) (text : List Char) : Option Environment :=
  match _nonempty : text with
  | [] => some environment
  | _ :: rest =>
      if isComment text then loadLines? environment ((rest.dropWhile (· ≠ '\n')).drop 1)
      else
        match _split : line? .open [] text with
        | none => some environment
        | some (line, rest) =>
            match setting? environment line with
            | none => some environment
            | some none => loadLines? environment rest
            | some (some (name, value)) =>
                match environment.provide? name value with
                | none => none
                | some environment => loadLines? environment rest
termination_by text.length
decreasing_by
  · have := (rest.dropWhile_sublist (· ≠ '\n')).length_le
    simp only [List.length_drop, List.length_cons] at *
    omega
  all_goals
    have := length_of_line? _split
    simp only [_nonempty, List.length_cons] at *
    omega

/-- The environment with the variables of a file that it does not have yet, if all of them can be
set.
-/
def load? (environment : Environment) (text : String) : Option Environment :=
  match text.toList with
  | '\ufeff' :: rest => loadLines? environment rest
  | text => loadLines? environment text

end UpdaterLaunch.EnvironmentFile
