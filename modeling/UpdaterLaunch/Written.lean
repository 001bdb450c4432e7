import UpdaterLaunch.Event
import UpdaterLaunch.Ident
import UpdaterLaunch.Tree

/-! The written form of what a launch deals with, and reading it back. Here every field has to be
there, but for a target's package, which may be left out of a table. A choice is written as its
name, or as a table of that one name with what it carries.
-/

namespace UpdaterLaunch

namespace Span

/-- The names of the fields, in order. -/
def fieldNames : List String := ["secs", "nanos"]

/-- Reads a span. Fields of other names are not taken here. -/
def ofTree? (tree : Tree) : Option Span := do
  if let .table fields := tree then
    guard (fields.all fun field => fieldNames.contains field.1)
  let [secs, nanos] ← tree.allFields? fieldNames | none
  ofParts? (← (← secs).uint64?) (← (← nanos).uint32?)

/-- Writes a span. -/
def toTree (span : Span) : Tree :=
  .table [("secs", .whole span.secs.toNat), ("nanos", .whole span.subsecNanos.toNat)]

end Span

namespace Budget

/-- The names of the fields, in order. -/
def fieldNames : List String := ["launch_max_retries", "update_max_retries", "retry_delay"]

/-- Reads a budget. -/
def ofTree? (tree : Tree) : Option Budget := do
  let [launchMax, updateMax, delay] ← tree.allFields? fieldNames | none
  return {
    launchMax := ← (← launchMax).uint32?
    updateMax := ← (← updateMax).uint32?
    delay := ← Span.ofTree? (← delay) }

/-- Writes a budget. -/
def toTree (budget : Budget) : Tree :=
  .table [("launch_max_retries", .whole budget.launchMax.toNat),
    ("update_max_retries", .whole budget.updateMax.toNat),
    ("retry_delay", budget.delay.toTree)]

end Budget

namespace Counters

/-- The names of the fields, in order. -/
def fieldNames : List String := ["update_tries", "launch_tries"]

/-- Reads what has been spent. -/
def ofTree? (tree : Tree) : Option Counters := do
  let [updates, launches] ← tree.allFields? fieldNames | none
  return {
    updateTries := ← (← updates).uint32?
    launchTries := ← (← launches).uint32? }

/-- Writes what has been spent. -/
def toTree (counters : Counters) : Tree :=
  .table [("update_tries", .whole counters.updateTries.toNat),
    ("launch_tries", .whole counters.launchTries.toNat)]

end Counters

namespace Target

/-- The names of the fields, in order. -/
def fieldNames : List String := ["action", "package", "extras"]

/-- Reads a target. Its extras are a table. -/
def ofTree? (tree : Tree) : Option Target := do
  let [action, package, extras] ← tree.allFields? fieldNames | none
  return {
    action := ← (← action).text?
    package := ← Tree.optional? Tree.text? package
    extras := Extras.ofList (← (← extras).textFields?) }

/-- Writes a target. -/
def toTree (target : Target) : Tree :=
  .table [("action", .text target.action),
    ("package", (target.package.map Tree.text).getD .null),
    ("extras", .table (target.extras.entries.map fun entry => (entry.1, .text entry.2)))]

end Target

namespace Failure

/-- Reads a failure: its name, or a table of that name and nothing to it. -/
def ofTree? : Tree → Option Failure
  | .text name => ofName? name
  | .table [(name, .null)] => ofName? name
  | _ => none

/-- Writes a failure as its name. -/
def toTree (failure : Failure) : Tree := .text failure.name

end Failure

namespace Event

/-- Reads an event: a table of its name, with a table of the one field that it carries. The tree
is a value that was parsed before. A decoder that works on the text itself also takes a list with
the one field in place of the inner table; a parsed value with such a list is refused.
-/
def ofTree? : Tree → Option Event
  | .table [("LaunchRequested", .table fields)] => do
      return .launchRequested (← Target.ofTree? (← fields.lookup "target"))
  | .table [("Failed", .table fields)] => do
      return .failed (← Failure.ofTree? (← fields.lookup "reason"))
  | _ => none

/-- Writes an event. -/
def toTree : Event → Tree
  | .launchRequested target =>
      .table [("LaunchRequested", .table [("target", target.toTree)])]
  | .failed reason => .table [("Failed", .table [("reason", reason.toTree)])]

end Event

namespace User

/-- Reads a user: a number. -/
def ofTree? (tree : Tree) : Option User := tree.uint32?.map .mk

/-- Writes a user as a number. -/
def toTree (user : User) : Tree := .whole user.number.toNat

end User

namespace SessionId

/-- Reads the name of a session: a text. -/
def ofTree? (tree : Tree) : Option SessionId := tree.text?.map .mk

/-- Writes the name of a session as a text. -/
def toTree (id : SessionId) : Tree := .text id.text

end SessionId

end UpdaterLaunch
