/-! Values as data formats write them, and reading a record from one. A record is written as a
table by field name or as a list of its fields in order; reading one gives, for each declared
field, the value written for it, if any.
-/

namespace UpdaterLaunch

/-- A value in a data format. -/
inductive Tree
  | null
  | flag (value : Bool)
  | whole (value : Int)
  /-- A number that is not written as a whole number, or is too large for one. -/
  | real
  | text (value : String)
  /-- A date, a time, or both. -/
  | moment
  | list (items : List Tree)
  | table (fields : List (String × Tree))
deriving Inhabited

namespace Tree

/-- The value of a flag. -/
def flag? : Tree → Option Bool
  | .flag value => some value
  | _ => none

/-- The value of a text. -/
def text? : Tree → Option String
  | .text value => some value
  | _ => none

/-- A whole number below a bound. -/
def below? (bound : Nat) : Tree → Option Nat
  | .whole (.ofNat n) => if n < bound then some n else none
  | _ => none

/-- A whole number of 32 bits. -/
def uint32? (tree : Tree) : Option UInt32 := (tree.below? UInt32.size).map .ofNat

/-- A whole number of 64 bits. -/
def uint64? (tree : Tree) : Option UInt64 := (tree.below? UInt64.size).map .ofNat

/-- A list whose items all are what `item?` takes. -/
def listOf? {α : Type} (item? : Tree → Option α) : Tree → Option (List α)
  | .list items => items.mapM item?
  | _ => none

/-- A table of which only texts are values. -/
def textFields? : Tree → Option (List (String × String))
  | .table fields => fields.mapM fun field => (field.2.text?).map (field.1, ·)
  | _ => none

/-- What a missing field or a null stands for: no value. -/
def optional? {α : Type} (value? : Tree → Option α) : Option Tree → Option (Option α)
  | none | some .null => some none
  | some tree => (value? tree).map some

/-- A field with a default: a missing one has it, one that is there must be readable. -/
def orDefault? {α : Type} (value? : Tree → Option α) (default : α) : Option Tree → Option α
  | none => some default
  | some tree => value? tree

/-- Whether a list with more items than a record has fields is refused or its rest passed over. -/
inductive Surplus
  | refused
  | ignored
deriving DecidableEq

/-- The values written for the named fields, where every field may be missing. Fields of other
names are passed over. A date or time is a table of a name that no record has.
-/
def fields? (surplus : Surplus) (names : List String) : Tree → Option (List (Option Tree))
  | .table fields => some (names.map fun name => fields.lookup name)
  | .moment => some (names.map fun _ => none)
  | .list items =>
      if items.length ≤ names.length ∨ surplus = .ignored then
        some ((List.range names.length).map (items[·]?))
      else none
  | _ => none

/-- The values written for the named fields, where a list must have them all, and no more. What a
table misses is told by the field itself.
-/
def allFields? (names : List String) : Tree → Option (List (Option Tree))
  | .table fields => some (names.map fun name => fields.lookup name)
  | .list items => if items.length = names.length then some (items.map some) else none
  | _ => none

end Tree

end UpdaterLaunch
