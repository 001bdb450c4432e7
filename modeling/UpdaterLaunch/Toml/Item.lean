import UpdaterLaunch.Toml.Key
import UpdaterLaunch.Tree

/-! What a document holds while it is read. A table remembers how it came to be, as that decides
whether it may still be opened by a header or added to by a dotted key.
-/

namespace UpdaterLaunch.Toml

/-- How a table came to be. -/
inductive Mark
  /-- By a header of its own, or as the document itself. -/
  | header
  /-- On the way to a table that has a header. -/
  | passing
  /-- On the way of a dotted key. -/
  | dotted
deriving DecidableEq

/-- What stands under a name. -/
inductive Item
  | value (tree : Tree)
  | table (mark : Mark) (fields : List (String × Item))
  /-- A list of tables that each have a header, the last one apart. -/
  | tables (earlier : List (List (String × Item))) (last : List (String × Item))
deriving Inhabited

/-- The fields of a table, in the order in which they came. -/
abbrev Fields := List (String × Item)

mutual

/-- The value that an item stands for. -/
def Item.toTree : Item → Tree
  | .value tree => tree
  | .table _ fields => .table (fieldTrees fields)
  | .tables earlier last => .list (tableTrees earlier ++ [.table (fieldTrees last)])

/-- The values that the fields of a table stand for. -/
def fieldTrees : List (String × Item) → List (String × Tree)
  | [] => []
  | (name, item) :: rest => (name, item.toTree) :: fieldTrees rest

/-- The values that tables stand for. -/
def tableTrees : List (List (String × Item)) → List Tree
  | [] => []
  | fields :: rest => .table (fieldTrees fields) :: tableTrees rest

end

namespace Fields

-----------------------------------------------------------------------------------------
-- Changing fields under a key
-----------------------------------------------------------------------------------------

/-- Changes what stands under a name, if that is allowed: it may be nothing so far. -/
def alter? (name : String) (change : Option Item → Option Item) : Fields → Option Fields
  | [] => (change none).map fun item => [(name, item)]
  | (n, item) :: rest =>
      if n = name then (change (some item)).map fun item => (n, item) :: rest
      else (alter? name change rest).map ((n, item) :: ·)

/-- Changes the table that a path leads to, if that is allowed. Tables that are missing on the way
are made, with the mark of the way, and a list of tables is entered at its last one. The way of a
dotted key does not go through a table with a header.
-/
def within? (way : Mark) (change : Mark → Fields → Option Fields)
    : List String → Mark → Fields → Option Fields
  | [], mark, fields => change mark fields
  | name :: path, _, fields =>
      fields.alter? name fun
        | none => (within? way change path way []).map (.table way)
        | some (.table mark inner) =>
            if way = .dotted ∧ mark = .header then none
            else (within? way change path mark inner).map (.table mark)
        | some (.tables earlier last) =>
            (within? way change path .header last).map (.tables earlier)
        | some (.value _) => none

/-- Writes a value under a dotted key that is not there yet. What a dotted key adds to is the
table at hand, or one that only dotted keys have made.
-/
def put? (key : Key) (value : Tree) (fields : Fields) : Option Fields :=
  within? .dotted (fun mark inner =>
    if key.path = [] ∨ mark = .dotted then
      inner.alter? key.last fun
        | none => some (.value value)
        | some _ => none
    else none) key.path .header fields

/-- The fields that entries with dotted keys come to. -/
def ofEntries? (entries : List (Key × Tree)) : Option Fields :=
  entries.foldlM (fun fields (key, value) => put? key value fields) []

/-- Opens the table of a header: one that is missing, or that was only passed on the way so far. -/
def openTable? (key : Key) (fields : Fields) : Option Fields :=
  within? .passing (fun _ inner => inner.alter? key.last fun
    | none => some (.table .header [])
    | some (.table .passing opened) => some (.table .header opened)
    | some _ => none) key.path .header fields

/-- Adds a table to the list of tables of a header. -/
def addTable? (key : Key) (fields : Fields) : Option Fields :=
  within? .passing (fun _ inner => inner.alter? key.last fun
    | none => some (.tables [] [])
    | some (.tables earlier last) => some (.tables (earlier ++ [last]) [])
    | some _ => none) key.path .header fields

end Fields

end UpdaterLaunch.Toml
