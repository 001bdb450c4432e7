import Mathlib.Data.List.Sort
import UpdaterLaunch.Target

/-! The last write counts. A target that is put together in many steps is the one that the last pin
and the last write of each key give: earlier ones leave no trace, and the order of writes under
different keys leaves none either, as the keys are kept sorted.
-/

namespace UpdaterLaunch

universe u v w

/-- If each step shows what it writes, or else what was to be seen before, then the last write of a
row of steps is to be seen after it. By induction on the row.
-/
theorem observe_foldl {σ : Type u} {ι : Type v} {α : Type w} (step : σ → ι → σ)
    (write : ι → Option α) (observe : σ → Option α)
    (shows : ∀ state item, observe (step state item) = (write item).or (observe state))
    (items : List ι) (state : σ)
    : observe (items.foldl step state)
      = (items.filterMap write).getLast?.or (observe state) := by
  induction items generalizing state with
  | nil => rfl
  | cons item rest ih =>
      rw [List.foldl_cons, ih, shows, List.filterMap_cons]
      cases write item with
      | none => rfl
      | some value =>
          dsimp only
          rw [List.getLast?_cons]
          cases (rest.filterMap write).getLast? <;> rfl

-----------------------------------------------------------------------------------------
-- Extras as a map
-----------------------------------------------------------------------------------------

/-- The value of a pair, if it is one for a key. -/
def valueUnder? (key : String) (pair : String × String) : Option String :=
  if pair.1 = key then some pair.2 else none

namespace Extras

theorem get?_insert (extras : Extras) (key value name : String)
    : (extras.insert key value).get? name
      = (valueUnder? name (key, value)).or (extras.get? name) := by
  rw [get?, insert, lookup_insertByKey, valueUnder?]
  split <;> rfl

theorem get?_insertAll (extras : Extras) (pairs : List (String × String)) (key : String)
    : (extras.insertAll pairs).get? key
      = (pairs.filterMap (valueUnder? key)).getLast?.or (extras.get? key) :=
  observe_foldl (fun extras pair => extras.insert pair.1 pair.2) (valueUnder? key)
    (fun extras => extras.get? key)
    (fun extras pair => extras.get?_insert pair.1 pair.2 key) pairs extras

theorem get?_ofList (pairs : List (String × String)) (key : String)
    : (ofList pairs).get? key = (pairs.filterMap (valueUnder? key)).getLast? := by
  rw [ofList, get?_insertAll]
  exact Option.or_none

/-- What is merged in counts more than what was there, as extras are made again of their entries. -/
theorem get?_merge (extras more : Extras) (key : String)
    : (extras.merge more).get? key = (more.get? key).or (extras.get? key) := by
  rw [merge, get?_insertAll, ← get?_ofList, ofList_entries]

/-- The entries are what is found under the keys, as no key occurs twice. -/
theorem mem_entries_iff (extras : Extras) (key value : String)
    : (key, value) ∈ extras.entries ↔ extras.get? key = some value := by
  have distinct : (extras.entries.map (·.1)).Nodup :=
    List.pairwise_map.mpr (extras.sorted.imp String.ne_of_lt)
  exact mem_iff_lookup distinct key value

/-- Extras with the same values under all keys are the same: their entries are, in the one order
that the keys can have.
-/
theorem eq_of_get? {one other : Extras} (same : ∀ key, one.get? key = other.get? key)
    : one = other := by
  have asymm (a b : String × String) (ab : a.1 < b.1) (ba : b.1 < a.1) : a = b :=
    absurd (String.lt_trans ab ba) (String.lt_irrefl _)
  have : Std.Antisymm fun a b : String × String => a.1 < b.1 := ⟨asymm⟩
  have : Std.Irrefl fun a b : String × String => a.1 < b.1 := ⟨fun a => String.lt_irrefl a.1⟩
  refine eq_of_entries (one.sorted.eq_of_mem_iff other.sorted ?_)
  rintro ⟨key, value⟩
  rw [mem_entries_iff, mem_entries_iff, same]

end Extras

-----------------------------------------------------------------------------------------
-- Targets by their last writes
-----------------------------------------------------------------------------------------

/-- The code points of a text. -/
def codePoints (text : String) : List Nat := text.toList.map Char.toNat

/-- The order of texts is that of their code points, the first difference deciding. -/
theorem codePoints_lt {one other : String} (lt : one < other)
    : codePoints one < codePoints other :=
  List.map_lt (fun _ _ less => less) (String.lt_iff.mp lt)

namespace Target

/-- The package that a step pins a target to, if it does. -/
def Edit.pin? : Edit → Option String
  | .package name => some name
  | .extra _ _ | .extras _ => none

/-- The value that a step writes under a key, if it does. -/
def Edit.write? (key : String) : Edit → Option String
  | .package _ => none
  | .extra own value => if own = key then some value else none
  | .extras values => values.get? key

/-- The package of the last pin. -/
def lastPin (edits : List Edit) : Option String := (edits.filterMap Edit.pin?).getLast?

/-- The value of the last write under a key. -/
def lastWrite (edits : List Edit) (key : String) : Option String :=
  (edits.filterMap (Edit.write? key)).getLast?

theorem action_edit (target : Target) (edit : Edit)
    : (target.edit edit).action = target.action := by
  cases edit <;> rfl

theorem package_edit (target : Target) (edit : Edit)
    : (target.edit edit).package = edit.pin?.or target.package := by
  cases edit <;> rfl

theorem get?_edit (target : Target) (edit : Edit) (key : String)
    : (target.edit edit).extras.get? key = (edit.write? key).or (target.extras.get? key) := by
  cases edit with
  | package name => rfl
  | extra own value => exact target.extras.get?_insert own value key
  | extras values => exact target.extras.get?_merge values key

theorem action_build (action : String) (edits : List Edit)
    : (build action edits).action = action := by
  have kept (target : Target) : (edits.foldl edit target).action = target.action := by
    induction edits generalizing target with
    | nil => rfl
    | cons first rest ih => exact (ih _).trans (target.action_edit first)
  exact kept _

theorem package_build (action : String) (edits : List Edit)
    : (build action edits).package = lastPin edits :=
  (observe_foldl edit Edit.pin? Target.package package_edit edits _).trans Option.or_none

theorem get?_build (action : String) (edits : List Edit) (key : String)
    : (build action edits).extras.get? key = lastWrite edits key :=
  (observe_foldl edit (Edit.write? key) (fun target => target.extras.get? key)
    (fun target edit => target.get?_edit edit key) edits _).trans Option.or_none

theorem eq_of_parts
    : ∀ {one other : Target},
        one.action = other.action
        → one.package = other.package
        → one.extras = other.extras
        → one = other
  | ⟨_, _, _⟩, ⟨_, _, _⟩, rfl, rfl, rfl => rfl

/-- Targets are built alike exactly if they have the same action, the same last pin and the same
last write under each key, as nothing else about them can be told apart.
-/
theorem build_eq_build_iff {action otherAction : String} {edits others : List Edit}
    : build otherAction others = build action edits
      ↔ otherAction = action
        ∧ lastPin others = lastPin edits
        ∧ ∀ key, lastWrite others key = lastWrite edits key := by
  constructor
  · intro same
    refine ⟨?_, ?_, fun key => ?_⟩
    · rw [← action_build otherAction others, same, action_build]
    · rw [← package_build otherAction others, same, package_build]
    · rw [← get?_build otherAction others, same, get?_build]
  · rintro ⟨rfl, pins, writes⟩
    refine eq_of_parts ?_ ?_ (Extras.eq_of_get? fun key => ?_)
    · rw [action_build, action_build]
    · rw [package_build, package_build, pins]
    · rw [get?_build, get?_build, writes]

/-- Steps that write some pairs one by one. -/
def writing (pairs : List (String × String)) : List Edit :=
  pairs.map fun pair => .extra pair.1 pair.2

theorem lastPin_writing (edits : List Edit) (pairs : List (String × String))
    : lastPin (edits ++ writing pairs) = lastPin edits := by
  have none : (writing pairs).filterMap Edit.pin? = [] := by
    simp [writing, List.filterMap_map, Edit.pin?]
  rw [lastPin, List.filterMap_append, none, List.append_nil, lastPin]

theorem lastWrite_writing (edits : List Edit) (pairs : List (String × String)) (key : String)
    : lastWrite (edits ++ writing pairs) key
      = ((Extras.ofList pairs).get? key).or (lastWrite edits key) := by
  have written : (writing pairs).filterMap (Edit.write? key)
      = pairs.filterMap (valueUnder? key) :=
    List.filterMap_map
  rw [lastWrite, List.filterMap_append, written, List.getLast?_append, ← Extras.get?_ofList,
    lastWrite]

theorem lastPin_extras (edits : List Edit) (values : Extras)
    : lastPin (edits ++ [.extras values]) = lastPin edits := by
  simp [lastPin, Edit.pin?]

theorem lastWrite_extras (edits : List Edit) (values : Extras) (key : String)
    : lastWrite (edits ++ [.extras values]) key = (values.get? key).or (lastWrite edits key) := by
  rw [lastWrite, List.filterMap_append, List.getLast?_append, lastWrite]
  cases found : values.get? key <;> simp [Edit.write?, found]

/-- Extras made of a list of pairs are written like the pairs one by one. -/
theorem build_extras_ofList (action : String) (edits : List Edit) (pairs : List (String × String))
    : build action (edits ++ [.extras (.ofList pairs)])
      = build action (edits ++ writing pairs) := by
  refine build_eq_build_iff.mpr ⟨rfl, ?_, fun key => ?_⟩
  · rw [lastPin_extras, lastPin_writing]
  · rw [lastWrite_extras, lastWrite_writing]

/-- The target that is built in some steps is the one that their last writes give. It has the action
it was begun with, the package of the last pin, and under each key the value of the last write, if
there is one; its extras are listed by strictly rising code points of their keys. Extras made of a
list of pairs are written like the pairs one by one. Two targets are equal exactly if their actions,
last pins and last writes are.
-/
theorem build_by_last_writes (action : String) (edits : List Edit)
    : let target := build action edits
      target.action = action
      ∧ target.package = lastPin edits
      ∧ (∀ key, target.extras.get? key = lastWrite edits key)
      ∧ (∀ key value,
          (key, value) ∈ target.extras.entries ↔ lastWrite edits key = some value)
      ∧ (target.extras.entries.map fun entry => codePoints entry.1).Pairwise (· < ·)
      ∧ (target.extras.entries.map (·.1)).Nodup
      ∧ (∀ pairs,
          build action (edits ++ [.extras (.ofList pairs)])
          = build action (edits ++ pairs.map fun pair => .extra pair.1 pair.2))
      ∧ ∀ otherAction others,
          build otherAction others = target
          ↔ otherAction = action
            ∧ lastPin others = lastPin edits
            ∧ ∀ key, lastWrite others key = lastWrite edits key := by
  intro target
  have sorted : SortedByKey target.extras.entries := target.extras.sorted
  refine ⟨action_build action edits, package_build action edits, get?_build action edits, ?_, ?_,
    ?_, build_extras_ofList action edits, fun _ _ => build_eq_build_iff⟩
  · intro key value
    rw [Extras.mem_entries_iff, get?_build]
  · exact List.pairwise_map.mpr (sorted.imp codePoints_lt)
  · exact List.pairwise_map.mpr (sorted.imp String.ne_of_lt)

/-- Keys that are written out of order and twice: only the last write of each counts. -/
example
    : (build "start"
        [.extra "b" "1", .package "one", .extras (.ofList [("c", "2"), ("a", "3"), ("a", "4")]),
          .extra "b" "5", .package "other"]).extras.entries
      = [("a", "4"), ("b", "5"), ("c", "2")] := by
  decide

end Target

end UpdaterLaunch
