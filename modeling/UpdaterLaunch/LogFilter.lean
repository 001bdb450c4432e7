import UpdaterLaunch.Notice
import UpdaterLaunch.Text.Bytes
import UpdaterLaunch.Text.Pattern
import UpdaterLaunch.Text.Space

/-! Which lines of the log are shown. A filter is written as directives between commas, such as
`debug`, `app=info` or `app[span{field=value}]=warn`: a target, in brackets a span and a field, and
after an equals sign a level. Of the directives that suit a line the most special one counts.
-/

namespace UpdaterLaunch

/-- How much a level lets through if lines up to it are shown. -/
def Level.verbosity : Level → Nat
  | .error => 1
  | .warn => 2
  | .info => 3
  | .debug => 4
  | .trace => 5

/-- Why a filter cannot be read. -/
inductive FilterFault
  /-- A directive is not well formed. -/
  | malformed
  /-- A part of a directive would begin or end within a character. -/
  | torn
deriving DecidableEq

/-- Shows the lines up to a verbosity whose target starts with a text and that have a field. -/
structure Directive where
  target : String := ""
  field : Option String := none
  verbosity : Nat
deriving DecidableEq

namespace Directive

-----------------------------------------------------------------------------------------
-- Levels and fields
-----------------------------------------------------------------------------------------

/-- The verbosity that a name or a number stands for. Nothing is shown with 0. -/
def verbosity? (word : List Char) : Option Nat :=
  let levels := ["off", "error", "warn", "info", "debug", "trace"]
  let digits := match word with
    | '+' :: digits => digits
    | digits => digits
  if !digits.isEmpty && digits.all Char.isDigit then
    let n := Text.ofDigits 10 digits
    if n < levels.length then some n else none
  else levels.idxOf? (.ofList (word.map Char.toLower))

/-- What a directive without a level shows of its target: everything. -/
def everything : Nat := Level.trace.verbosity

/-- Whether a text is a number with a plus sign; digits may have a point and a power of ten. -/
def isPositive (text : List Char) : Bool :=
  match text with
  | '+' :: rest =>
      let (whole, rest) := rest.span Char.isDigit
      let (places, rest) := match rest with
        | '.' :: rest => rest.span Char.isDigit
        | rest => ([], rest)
      let power (rest : List Char) : Bool :=
        match rest with
        | [] => true
        | e :: '+' :: digits | e :: '-' :: digits | e :: digits =>
            e.toLower = 'e' && !digits.isEmpty && digits.all Char.isDigit
      !(whole ++ places).isEmpty && power rest
        || ["inf", "infinity", "nan"].contains (String.ofList ((text.drop 1).map Char.toLower))
  | _ => false

/-- Whether a field can be asked for a value: one that is no number is a pattern. -/
def isValue (text : List Char) : Bool := isPositive text || Text.Pattern.isWellFormed text

/-- The name of a field, and whether a value is asked for, too. -/
def field? (text : List Char) : Option (List Char × Bool) :=
  let (name, rest) := text.span (· ≠ '=')
  match rest with
  | [] => if name.isEmpty then none else some (name, false)
  | _ :: rest => if isValue (rest.takeWhile (· ≠ '=')) then some (name, true) else none

-----------------------------------------------------------------------------------------
-- Reading a directive
-----------------------------------------------------------------------------------------

/-- Whether a directive may start with a character. -/
def startsWith (c : Char) : Bool :=
  Text.isAlphanumeric c || c = '-' || c = ':' || c = '_'

/-- The part of a directive between two places. -/
def part (text : List Char) (start stop : Nat) : Except FilterFault (List Char) :=
  match Text.part? text start stop with
  | some part => .ok part
  | none => .error .torn

/-- What there is, or else a fault. -/
def wellFormed {α : Type} : Option α → Except FilterFault α
  | some a => .ok a
  | none => .error .malformed

/-- The level at the end of a directive, from a place on. -/
def levelFrom (text : List Char) (start : Nat) : Except FilterFault Nat := do
  match ← part text start (Text.byteSize text) with
  | [] => return everything
  | word => wellFormed (verbosity? word)

/-- What may come after a span: nothing or a level. -/
def afterSpan (text rest : List Char) (start : Nat) : Except FilterFault Nat :=
  match rest with
  | [] => return everything
  | '=' :: _ => levelFrom text (start + 1)
  | _ => throw .malformed

/-- Reads a directive from its span on. Where a span has a name or a field has a value, lines
outside of spans never suit the directive.
-/
def ofSpan (text target rest : List Char) (start : Nat)
    : Except FilterFault (Option Directive) := do
  let (name, rest) := rest.span fun c => c ≠ ']' && c ≠ '\x7b'
  let nameEnd := start + Text.byteSize name
  match rest with
  | [] => throw .malformed
  | ']' :: rest =>
      let _ ← part text start nameEnd
      let _ ← afterSpan text rest (nameEnd + 1)
      return none
  | _ :: rest =>
      let name ← part text start nameEnd
      let (field, rest) := rest.span (· ≠ '\x7d')
      let fieldEnd := nameEnd + 1 + Text.byteSize field
      match rest with
      | [] => throw .malformed
      | _ :: rest =>
          let (field, valued) ← wellFormed (field? (← part text (nameEnd + 1) fieldEnd))
          match rest with
          | ']' :: rest =>
              let verbosity ← afterSpan text rest (fieldEnd + 2)
              if !name.isEmpty || valued then return none
              return some { target := .ofList target, field := some (.ofList field), verbosity }
          | _ => throw .malformed

/-- Reads a directive; nothing if no line outside of spans can suit it. The places of its parts are
found without the spaces around it, but they are counted from the start of the text with them.
-/
def ofText (text : List Char) : Except FilterFault (Option Directive) := do
  let bare := Text.trim text
  match bare with
  | [] => throw .malformed
  | '[' :: rest => ofSpan text [] rest 1
  | first :: _ =>
      if !startsWith first then throw .malformed
      let (target, rest) := bare.span fun c => c ≠ '=' && c ≠ '['
      let targetEnd := Text.byteSize target
      match rest with
      | [] =>
          match verbosity? text with
          | some verbosity => return some { verbosity }
          | none => return some { target := .ofList text, verbosity := everything }
      | '=' :: _ =>
          let target ← part text 0 targetEnd
          let verbosity ← levelFrom text (targetEnd + 1)
          return some { target := .ofList target, verbosity }
      | _ :: rest => ofSpan text (← part text 0 targetEnd) rest (targetEnd + 1)

-----------------------------------------------------------------------------------------
-- Which directive counts
-----------------------------------------------------------------------------------------

/-- Whether a directive suits a line with a target and fields. -/
def suits (directive : Directive) (target : String) (fields : List String) : Bool :=
  directive.target.toList.isPrefixOf target.toList && directive.field.all fields.contains

/-- Whether a directive is no more special than another that suits the same lines: a longer target
comes before all, then a field, and of two fields the later one in the alphabet.
-/
def yields (directive other : Directive) : Bool :=
  directive.target.length < other.target.length
    || directive.target.length = other.target.length
      && directive.field.getD "" ≤ other.field.getD ""

end Directive

/-- The directives of a filter. -/
structure LogFilter where
  directives : List Directive
deriving DecidableEq

namespace LogFilter

/-- What is shown if no filter is given. -/
def standard : LogFilter := ⟨[{ verbosity := Level.debug.verbosity }]⟩

/-- Reads a filter. An empty one has no directives and shows nothing. -/
def ofText (text : String) : Except FilterFault LogFilter := do
  let pieces := (text.splitOn ",").filter (· ≠ "")
  return ⟨(← pieces.mapM fun piece => Directive.ofText piece.toList).filterMap id⟩

/-- The directive that counts for a line; of two that are alike that is the later one. -/
def directive? (filter : LogFilter) (target : String) (fields : List String)
    : Option Directive :=
  let special (best : Option Directive) (d : Directive) :=
    if best.all (·.yields d) then some d else best
  (filter.directives.filter (·.suits target fields)).foldl special none

/-- Whether a line is shown. -/
def shows (filter : LogFilter) (target : String) (level : Level) (fields : List String)
    : Bool :=
  (filter.directive? target fields).any (level.verbosity ≤ ·.verbosity)

end LogFilter

end UpdaterLaunch
