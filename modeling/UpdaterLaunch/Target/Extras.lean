/-! The extras of a launch target: string values under string keys, listed by key. The order of
the keys is by code points and part of the type, so a key occurs once and two extras with the
same values are equal.
-/

namespace UpdaterLaunch

/-- Writes one value into a list sorted by key: a key that is there keeps its place. -/
def insertByKey (key value : String) : List (String × String) → List (String × String)
  | [] => [(key, value)]
  | (k, v) :: rest =>
      if key < k then (key, value) :: (k, v) :: rest
      else if key = k then (key, value) :: rest
      else (k, v) :: insertByKey key value rest

/-- The keys of the list rise strictly. -/
def SortedByKey (entries : List (String × String)) : Prop :=
  entries.Pairwise fun a b => a.1 < b.1

/-- Of two keys that are neither equal nor in order, the second comes first. -/
theorem key_lt_of_not_lt {a b : String} (lt : ¬ a < b) (ne : ¬ a = b) : b < a :=
  Decidable.byContradiction fun h =>
    ne (String.le_antisymm (String.not_lt.mp h) (String.not_lt.mp lt))

/-- A write brings in no entry besides the written one. -/
theorem mem_of_mem_insertByKey {key value : String} {entry : String × String}
    : ∀ {entries : List (String × String)}, entry ∈ insertByKey key value entries
      → entry = (key, value) ∨ entry ∈ entries
  | [], h => by simpa [insertByKey] using h
  | (k, v) :: rest, h => by
      unfold insertByKey at h
      split at h
      · simpa using h
      · split at h
        · rcases List.mem_cons.mp h with h | h
          · exact .inl h
          · exact .inr (List.mem_cons_of_mem _ h)
        · rcases List.mem_cons.mp h with h | h
          · exact .inr (h ▸ List.mem_cons_self)
          · exact (mem_of_mem_insertByKey h).imp_right (List.mem_cons_of_mem _)

/-- A write keeps the keys in order. -/
theorem sortedByKey_insertByKey {key value : String}
    : ∀ {entries : List (String × String)}, SortedByKey entries
      → SortedByKey (insertByKey key value entries)
  | [], _ => by simp [insertByKey, SortedByKey]
  | (k, v) :: rest, h => by
      obtain ⟨first, tail⟩ := List.pairwise_cons.mp h
      unfold insertByKey
      split
      · rename_i lt
        refine List.pairwise_cons.mpr ⟨?_, h⟩
        intro entry he
        rcases List.mem_cons.mp he with rfl | he
        · exact lt
        · exact String.lt_trans lt (first entry he)
      · rename_i notLt
        split
        · rename_i eq
          subst eq
          exact List.pairwise_cons.mpr ⟨first, tail⟩
        · rename_i ne
          refine List.pairwise_cons.mpr ⟨?_, sortedByKey_insertByKey tail⟩
          intro entry he
          rcases mem_of_mem_insertByKey he with rfl | he
          · exact key_lt_of_not_lt notLt ne
          · exact first entry he

/-- A key beyond all others is written at the end. -/
theorem insertByKey_of_last {key value : String}
    : ∀ {entries : List (String × String)}, (∀ entry ∈ entries, entry.1 < key)
      → insertByKey key value entries = entries ++ [(key, value)]
  | [], _ => rfl
  | (k, v) :: rest, last => by
      have later : k < key := last (k, v) List.mem_cons_self
      have notLt : ¬ key < k := fun lt => String.lt_irrefl k (String.lt_trans later lt)
      have ne : ¬ key = k := fun eq => String.lt_irrefl k (eq ▸ later)
      rw [insertByKey, if_neg notLt, if_neg ne,
        insertByKey_of_last fun entry member => last entry (List.mem_cons_of_mem _ member)]
      rfl

/-- What is found under a name in front of a list, or else in the list. -/
theorem lookup_cons_if {α : Type} (key name : String) (value : α) (rest : List (String × α))
    : ((key, value) :: rest).lookup name
      = if key = name then some value else rest.lookup name := by
  by_cases same : key = name
  · simp [same]
  · have unseen : (name == key) = false := beq_false_of_ne (Ne.symm same)
    simp [List.lookup_cons, same, unseen]

/-- Where names are distinct, what stands under a name is what is found there, by induction. -/
theorem mem_iff_lookup {α : Type} {entries : List (String × α)}
    (distinct : (entries.map (·.1)).Nodup) (name : String) (value : α)
    : (name, value) ∈ entries ↔ entries.lookup name = some value := by
  induction entries with
  | nil => simp
  | cons entry rest ih =>
      obtain ⟨key, first⟩ := entry
      obtain ⟨fresh, distinct⟩ := List.nodup_cons.mp distinct
      rw [lookup_cons_if, List.mem_cons, ih distinct]
      by_cases own : key = name
      · have absent : rest.lookup name ≠ some value := by
          intro found
          exact fresh (List.mem_map.mpr ⟨_, (ih distinct).mpr found, own.symm⟩)
        simp [own, absent, eq_comm]
      · simp [own, Ne.symm own]

/-- A write is found under its own key, and changes nothing under any other. -/
theorem lookup_insertByKey (key value name : String) (entries : List (String × String))
    : (insertByKey key value entries).lookup name
      = if key = name then some value else entries.lookup name := by
  induction entries with
  | nil => exact lookup_cons_if key name value []
  | cons entry rest ih =>
      obtain ⟨k, v⟩ := entry
      unfold insertByKey
      split
      · exact lookup_cons_if key name value _
      · split
        · rename_i same
          simp only [lookup_cons_if, ← same]
          split <;> rfl
        · rename_i ne
          simp only [lookup_cons_if, ih]
          by_cases own : key = name
          · simp [own, own ▸ Ne.symm ne]
          · simp [own]

/-- String values under string keys, listed by strictly rising key. -/
structure Extras where
  entries : List (String × String)
  sorted : SortedByKey entries
deriving DecidableEq

namespace Extras

/-- No extras at all. -/
def empty : Extras := ⟨[], .nil⟩

instance : Inhabited Extras := ⟨empty⟩

/-- Writes one value; the last write of a key counts. -/
def insert (extras : Extras) (key value : String) : Extras :=
  ⟨insertByKey key value extras.entries, sortedByKey_insertByKey extras.sorted⟩

/-- The value under a key, if there is one. -/
def get? (extras : Extras) (key : String) : Option String := extras.entries.lookup key

/-- Writes the pairs in their order, so a later pair counts more than an earlier one. -/
def insertAll (extras : Extras) (pairs : List (String × String)) : Extras :=
  pairs.foldl (fun e p => e.insert p.1 p.2) extras

/-- The extras made of a list of pairs. -/
def ofList (pairs : List (String × String)) : Extras := empty.insertAll pairs

/-- All of `more` written over `extras`. -/
def merge (extras more : Extras) : Extras := extras.insertAll more.entries

/-- Pairs that go on in the order of the keys are written one behind the other. -/
theorem entries_insertAll_of_sorted
    : ∀ {pairs : List (String × String)} {extras : Extras},
      SortedByKey (extras.entries ++ pairs)
      → (extras.insertAll pairs).entries = extras.entries ++ pairs
  | [], extras, _ => (List.append_nil _).symm
  | (key, value) :: rest, extras, sorted => by
      have last : ∀ entry ∈ extras.entries, entry.1 < key := fun entry member =>
        (List.pairwise_append.mp sorted).2.2 entry member (key, value) List.mem_cons_self
      have first : (extras.insert key value).entries = extras.entries ++ [(key, value)] :=
        insertByKey_of_last last
      have next : SortedByKey ((extras.insert key value).entries ++ rest) := by
        rwa [first, List.append_assoc]
      have rows := entries_insertAll_of_sorted next
      rwa [first, List.append_assoc] at rows

/-- Extras are told apart by their entries. -/
theorem eq_of_entries : ∀ {one other : Extras}, one.entries = other.entries → one = other
  | ⟨_, _⟩, ⟨_, _⟩, rfl => rfl

/-- Extras are made again of their entries. -/
theorem ofList_entries (extras : Extras) : ofList extras.entries = extras :=
  eq_of_entries (entries_insertAll_of_sorted extras.sorted)

end Extras

end UpdaterLaunch
