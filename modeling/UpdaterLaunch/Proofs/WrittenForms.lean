import UpdaterLaunch.Config
import UpdaterLaunch.Written

/-! Written values are read back. Reading takes many forms of one value, as a table with its fields
in any order, with fields that mean nothing and without those that go without saying, or as a list
of the fields; writing gives one of these forms, the same for all of them, and what was written once
is written like that ever after.
-/

namespace UpdaterLaunch

-----------------------------------------------------------------------------------------
-- What is written for each type
-----------------------------------------------------------------------------------------

/-- A type whose values are the whole numbers below a bound. -/
structure Width (ω : Type) where
  bound : Nat
  ofNat : Nat → ω
  toNat : ω → Nat
  toNat_lt : ∀ value, toNat value < bound
  ofNat_toNat : ∀ value, ofNat (toNat value) = value
  toNat_ofNat : ∀ {n}, n < bound → toNat (ofNat n) = n

namespace Width

/-- Numbers of 32 bits. -/
def bits32 : Width UInt32 where
  bound := UInt32.size
  ofNat := .ofNat
  toNat := UInt32.toNat
  toNat_lt value := value.toNat_lt_size
  ofNat_toNat _ := UInt32.ofNat_toNat
  toNat_ofNat := UInt32.toNat_ofNat_of_lt'

/-- Numbers of 64 bits. -/
def bits64 : Width UInt64 where
  bound := UInt64.size
  ofNat := .ofNat
  toNat := UInt64.toNat
  toNat_lt value := value.toNat_lt_size
  ofNat_toNat _ := UInt64.ofNat_toNat
  toNat_ofNat := UInt64.toNat_ofNat_of_lt'

variable {ω : Type} (width : Width ω)

/-- Reads a number of this width, as is done for 32 and for 64 bits. -/
def ofTree? (tree : Tree) : Option ω := (tree.below? width.bound).map width.ofNat

theorem ofTree?_whole (value : ω) : width.ofTree? (.whole (width.toNat value)) = some value := by
  have below : (Tree.whole (width.toNat value)).below? width.bound = some (width.toNat value) :=
    if_pos (width.toNat_lt value)
  rw [ofTree?, below, Option.map_some, width.ofNat_toNat]

theorem toNat_inj {value other : ω} : width.toNat value = width.toNat other ↔ value = other :=
  ⟨fun same => by rw [← width.ofNat_toNat value, same, width.ofNat_toNat], congrArg _⟩

end Width

namespace Tree

@[simp]
theorem uint32?_whole (n : UInt32) : (whole n.toNat).uint32? = some n :=
  Width.bits32.ofTree?_whole n

@[simp]
theorem uint64?_whole (n : UInt64) : (whole n.toNat).uint64? = some n :=
  Width.bits64.ofTree?_whole n

@[simp]
theorem fields?_table (surplus : Surplus) (names : List String) (fields : List (String × Tree))
    : (table fields).fields? surplus names = some (names.map fun name => fields.lookup name) :=
  rfl

@[simp]
theorem allFields?_table (names : List String) (fields : List (String × Tree))
    : (table fields).allFields? names = some (names.map fun name => fields.lookup name) :=
  rfl

@[simp]
theorem orDefault?_some {α : Type} (value? : Tree → Option α) (default : α) (tree : Tree)
    : orDefault? value? default (some tree) = value? tree :=
  rfl

/-- Values that are read back one by one are read back in a row, by induction on the row. -/
theorem mapM_map_back {α β : Type} (write : α → β) (read? : β → Option α)
    (back : ∀ value, read? (write value) = some value) (values : List α)
    : (values.map write).mapM read? = some values := by
  induction values with
  | nil => rfl
  | cons value rest ih => simp [back, ih]

theorem listOf?_map {α : Type} (write : α → Tree) (read? : Tree → Option α)
    (back : ∀ value, read? (write value) = some value) (values : List α)
    : (list (values.map write)).listOf? read? = some values :=
  mapM_map_back write read? back values

theorem textFields?_map (entries : List (String × String))
    : (table (entries.map fun entry => (entry.1, text entry.2))).textFields? = some entries :=
  mapM_map_back (fun entry : String × String => (entry.1, text entry.2))
    (fun field => (field.2.text?).map (field.1, ·)) (fun _ => rfl) entries

end Tree

namespace Span

/-- The ways to write down a span of so many seconds and nanoseconds. -/
def forms (secs : UInt64) (nanos : UInt32) : List Tree :=
  let secs := Tree.whole secs.toNat
  let nanos := Tree.whole nanos.toNat
  [.table [("secs", secs), ("nanos", nanos)], .table [("nanos", nanos), ("secs", secs)],
    .list [secs, nanos]]

/-- A span is put together from the parts that its form gives. What puts them together is kept apart
from how they are read, as its bound on the seconds is not to be evaluated.
-/
theorem ofTree?_form {secs : UInt64} {nanos : UInt32} {form : Tree}
    (written : form ∈ forms secs nanos)
    : ofTree? form = ofParts? secs nanos := by
  have parts (together : UInt64 → UInt32 → Option Span)
      : (do together (← (Tree.whole secs.toNat).uint64?) (← (Tree.whole nanos.toNat).uint32?))
        = together secs nanos := by
    rw [Tree.uint64?_whole, Tree.uint32?_whole]
    rfl
  simp only [forms, List.mem_cons, List.not_mem_nil, or_false] at written
  obtain rfl | rfl | rfl := written <;> exact parts ofParts?

theorem ofTree?_toTree (span : Span) : ofTree? span.toTree = some span :=
  (ofTree?_form (.head _)).trans span.ofParts?_secs_subsecNanos

/-- A billion nanoseconds are written as one more second. -/
theorem toTree_ofParts? (secs : UInt64) (nanos : UInt32)
    : (ofParts? secs nanos).map toTree
      = if secs.toNat + nanos.toNat / nanosPerSecond < UInt64.size then
          some (.table [("secs", .whole ↑(secs.toNat + nanos.toNat / nanosPerSecond)),
            ("nanos", .whole ↑(nanos.toNat % nanosPerSecond))])
        else none := by
  have positive : 0 < nanosPerSecond := by decide
  have carried : (secs.toNat * nanosPerSecond + nanos.toNat) / nanosPerSecond
      = secs.toNat + nanos.toNat / nanosPerSecond := by
    rw [Nat.mul_comm, Nat.mul_add_div positive]
  have rest : (secs.toNat * nanosPerSecond + nanos.toNat) % nanosPerSecond
      = nanos.toNat % nanosPerSecond := by
    rw [Nat.mul_comm, Nat.mul_add_mod]
  have bound : secs.toNat * nanosPerSecond + nanos.toNat < UInt64.size * nanosPerSecond
      ↔ secs.toNat + nanos.toNat / nanosPerSecond < UInt64.size := by
    rw [← carried, Nat.div_lt_iff_lt_mul positive]
  unfold ofParts?
  dsimp only
  split
  case isTrue kept =>
    simp only [if_pos (bound.mp kept), Option.map_some, toTree, toNat_secs, toNat_subsecNanos,
      carried, rest]
  case isFalse lost => rw [if_neg (mt bound.mpr lost), Option.map_none]

end Span

theorem Budget.ofTree?_toTree (budget : Budget) : ofTree? budget.toTree = some budget := by
  simp [ofTree?, toTree, fieldNames, List.lookup_cons, Span.ofTree?_toTree]

/-- A budget whose delay is given in parts is written with a delay that is carried over. -/
theorem Budget.toTree_ofTree?_list (launchMax updateMax : UInt32) {secs : UInt64} {nanos : UInt32}
    {form : Tree} (written : form ∈ Span.forms secs nanos)
    (kept : secs.toNat + nanos.toNat / nanosPerSecond < UInt64.size)
    : (ofTree? (.list [.whole launchMax.toNat, .whole updateMax.toNat, form])).map toTree
      = some (.table [("launch_max_retries", .whole launchMax.toNat),
          ("update_max_retries", .whole updateMax.toNat),
          ("retry_delay", .table [("secs", .whole ↑(secs.toNat + nanos.toNat / nanosPerSecond)),
            ("nanos", .whole ↑(nanos.toNat % nanosPerSecond))])]) := by
  have carried := Span.toTree_ofParts? secs nanos
  rw [if_pos kept] at carried
  obtain ⟨delay, together, asWritten⟩ := Option.map_eq_some_iff.mp carried
  have read := (Span.ofTree?_form written).trans together
  simp [ofTree?, Tree.allFields?, fieldNames, read, toTree, asWritten]

theorem Counters.ofTree?_toTree (counters : Counters)
    : ofTree? counters.toTree = some counters := by
  simp [ofTree?, toTree, fieldNames, List.lookup_cons]

/-- A target is read back, as its extras are made again of their entries. -/
theorem Target.ofTree?_toTree (target : Target) : ofTree? target.toTree = some target := by
  obtain ⟨action, package, extras⟩ := target
  have entries := Tree.textFields?_map extras.entries
  cases package <;>
    simp [ofTree?, toTree, fieldNames, List.lookup_cons, Tree.text?, Tree.optional?, entries,
      Extras.ofList_entries]

theorem Failure.ofTree?_toTree (failure : Failure) : ofTree? failure.toTree = some failure := by
  cases failure <;> decide

theorem Event.ofTree?_toTree (event : Event) : ofTree? event.toTree = some event := by
  cases event with
  | launchRequested target => simp [ofTree?, toTree, target.ofTree?_toTree]
  | failed reason => simp [ofTree?, toTree, reason.ofTree?_toTree]

/-- An event takes a field of its own, whatever else is in its table. -/
theorem Event.ofTree?_congr (name : String) {fields more : List (String × Tree)}
    (same : ∀ field ∈ ["target", "reason"], more.lookup field = fields.lookup field)
    : ofTree? (.table [(name, .table more)]) = ofTree? (.table [(name, .table fields)]) := by
  have target := same "target" (by decide)
  have reason := same "reason" (by decide)
  by_cases requested : name = "LaunchRequested"
  · simp only [requested, ofTree?, target]
  · by_cases failed : name = "Failed"
    · simp only [failed, ofTree?, reason]
    · simp [ofTree?, requested, failed]

theorem User.ofTree?_toTree (user : User) : ofTree? user.toTree = some user := by
  simp [ofTree?, toTree]

theorem SessionId.ofTree?_toTree (id : SessionId) : ofTree? id.toTree = some id := rfl

section Sections

variable (surplus : Tree.Surplus)

theorem RoleHolderConfig.ofTree?_toTree (config : RoleHolderConfig)
    : ofTree? surplus config.toTree = some config := by
  obtain ⟨package, updater, defer⟩ := config
  cases package <;> cases updater <;> rfl

theorem UpdaterLaunchConfig.ofTree?_toTree (config : UpdaterLaunchConfig)
    : ofTree? surplus config.toTree = some config := by
  simp [ofTree?, toTree, fieldNames, List.lookup_cons]

theorem Package.ofTree?_toTree (package : Package)
    : ofTree? surplus package.toTree = some package := by
  have actions := Tree.listOf?_map .text Tree.text? (fun _ => rfl) package.handledActions
  simp [ofTree?, toTree, fieldNames, List.lookup_cons, Tree.text?, Tree.flag?, actions]

theorem DryRunConfig.ofTree?_toTree (config : DryRunConfig)
    : ofTree? surplus config.toTree = some config := by
  simp [ofTree?, toTree, fieldNames, List.lookup_cons]

theorem Config.ofTree?_toTree (config : Config) : ofTree? surplus config.toTree = some config := by
  have packages :=
    Tree.listOf?_map Package.toTree (Package.ofTree? surplus) (Package.ofTree?_toTree surplus)
      config.packages
  simp [ofTree?, toTree, fieldNames, List.lookup_cons, packages, RoleHolderConfig.ofTree?_toTree,
    UpdaterLaunchConfig.ofTree?_toTree, DryRunConfig.ofTree?_toTree]

end Sections

-----------------------------------------------------------------------------------------
-- The forms of a record
-----------------------------------------------------------------------------------------

namespace Tree

variable {names : List String}

/-- A list gives the fields in order what a table of their names gives, by induction on names. -/
theorem map_lookup_zip (distinct : names.Nodup) (items : List Tree)
    : names.map (fun name => (names.zip items).lookup name)
      = (List.range names.length).map (items[·]?) := by
  induction names generalizing items with
  | nil => rfl
  | cons name rest ih =>
      obtain ⟨fresh, distinct⟩ := List.nodup_cons.mp distinct
      cases items with
      | nil => simp [List.map_const', List.replicate_succ]
      | cons item items =>
          have others : rest.map (fun other => ((name, item) :: rest.zip items).lookup other)
              = rest.map (fun other => (rest.zip items).lookup other) := by
            apply List.map_congr_left
            intro other member
            have ne : (other == name) = false := beq_false_of_ne fun same => fresh (same ▸ member)
            rw [List.lookup_cons, ne]
          simp [List.range_succ_eq_map, others, ih distinct]

/-- A list that is not too long is read like the table of its names. -/
theorem fields?_list (surplus : Surplus) (distinct : names.Nodup) {items : List Tree}
    (short : items.length ≤ names.length)
    : (list items).fields? surplus names = (table (names.zip items)).fields? surplus names := by
  simp [fields?, short, map_lookup_zip distinct]

/-- A list with all fields is read like the table of its names. -/
theorem allFields?_list (distinct : names.Nodup) {items : List Tree}
    (whole : items.length = names.length)
    : (list items).allFields? names = (table (names.zip items)).allFields? names := by
  have each : (List.range items.length).map (items[·]?) = items.map some := by
    apply List.ext_getElem?
    intro i
    by_cases within : i < items.length <;> simp [within]
  simp [allFields?, whole, map_lookup_zip distinct, ← each]

/-- A field with a default is read alike where the default is filled in. -/
theorem orDefault?_getD {α : Type} {value? : Tree → Option α} {default : α} {filling : Tree}
    (fills : value? filling = some default) (given : Option Tree)
    : orDefault? value? default (some (given.getD filling)) = orDefault? value? default given := by
  cases given with
  | none => exact fills
  | some tree => rfl

/-- A value that may be missing is read alike where a null is filled in. -/
theorem optional?_getD {α : Type} (value? : Tree → Option α) (given : Option Tree)
    : optional? value? (some (given.getD .null)) = optional? value? given := by
  cases given <;> rfl

end Tree

-----------------------------------------------------------------------------------------
-- Fields that go without saying
-----------------------------------------------------------------------------------------

/-- A target that is not pinned need not say so. -/
def Target.defaults : List (String × Tree) := [("package", .null)]

theorem Target.ofTree?_defaults (fields : List (String × Tree))
    : ofTree? (.table (fields ++ defaults)) = ofTree? (.table fields) := by
  simp [ofTree?, fieldNames, defaults, List.lookup_append, List.lookup_cons, Tree.optional?_getD]

section Sections

variable (surplus : Tree.Surplus) (fields : List (String × Tree))

/-- No packages are named and nothing is handed over unless the section tells otherwise. -/
def RoleHolderConfig.defaults : List (String × Tree) :=
  [("package_name", .null), ("updater_package_name", .null),
    ("defer_provisioning_to_role_holder", .flag false)]

theorem RoleHolderConfig.ofTree?_defaults
    : ofTree? surplus (.table (fields ++ defaults)) = ofTree? surplus (.table fields) := by
  have defer : Tree.flag? (.flag false) = some false := rfl
  simp [ofTree?, fieldNames, defaults, List.lookup_append, List.lookup_cons,
    Tree.optional?_getD, Tree.orDefault?_getD defer]

/-- A minute between three retries of either sort, unless the section tells otherwise. -/
def UpdaterLaunchConfig.defaults : List (String × Tree) :=
  [("launch_retry_delay_ms", .whole 60000), ("launch_max_retries", .whole 3),
    ("update_max_retries", .whole 3)]

theorem UpdaterLaunchConfig.ofTree?_defaults
    : ofTree? surplus (.table (fields ++ defaults)) = ofTree? surplus (.table fields) := by
  have delay : Tree.uint64? (.whole 60000) = some 60000 := rfl
  have retries : Tree.uint32? (.whole 3) = some 3 := rfl
  simp [ofTree?, fieldNames, defaults, List.lookup_append, List.lookup_cons,
    Tree.orDefault?_getD delay, Tree.orDefault?_getD retries]

/-- A package has an empty name, handles nothing and is no stub unless it tells otherwise. -/
def Package.defaults : List (String × Tree) :=
  [("name", .text ""), ("handled_actions", .list []), ("stub", .flag false)]

theorem Package.ofTree?_defaults
    : ofTree? surplus (.table (fields ++ defaults)) = ofTree? surplus (.table fields) := by
  have name : Tree.text? (.text "") = some "" := rfl
  have actions : (Tree.list []).listOf? Tree.text? = some [] := rfl
  have stub : Tree.flag? (.flag false) = some false := rfl
  simp [ofTree?, fieldNames, defaults, List.lookup_append, List.lookup_cons,
    Tree.orDefault?_getD name, Tree.orDefault?_getD actions, Tree.orDefault?_getD stub]

/-- No update fails unless the section tells otherwise. -/
def DryRunConfig.defaults : List (String × Tree) := [("failed_updates", .whole 0)]

theorem DryRunConfig.ofTree?_defaults
    : ofTree? surplus (.table (fields ++ defaults)) = ofTree? surplus (.table fields) := by
  have failed : Tree.uint32? (.whole 0) = some 0 := rfl
  simp [ofTree?, fieldNames, defaults, List.lookup_append, List.lookup_cons,
    Tree.orDefault?_getD failed]

/-- A section with its defaults, and no packages, unless the configuration tells otherwise. -/
def Config.defaults : List (String × Tree) :=
  [("role_holder", .table RoleHolderConfig.defaults),
    ("updater_launch", .table UpdaterLaunchConfig.defaults), ("packages", .list []),
    ("dry_run", .table DryRunConfig.defaults)]

theorem Config.ofTree?_defaults
    : ofTree? surplus (.table (fields ++ defaults)) = ofTree? surplus (.table fields) := by
  have roleHolder : RoleHolderConfig.ofTree? surplus (.table RoleHolderConfig.defaults) = some {} :=
    RoleHolderConfig.ofTree?_toTree surplus {}
  have updaterLaunch
      : UpdaterLaunchConfig.ofTree? surplus (.table UpdaterLaunchConfig.defaults) = some {} :=
    UpdaterLaunchConfig.ofTree?_toTree surplus {}
  have packages : (Tree.list []).listOf? (Package.ofTree? surplus) = some [] := rfl
  have dryRun : DryRunConfig.ofTree? surplus (.table DryRunConfig.defaults) = some {} :=
    DryRunConfig.ofTree?_toTree surplus {}
  simp [ofTree?, fieldNames, defaults, List.lookup_append, List.lookup_cons,
    Tree.orDefault?_getD roleHolder, Tree.orDefault?_getD updaterLaunch,
    Tree.orDefault?_getD packages, Tree.orDefault?_getD dryRun]

end Sections

-----------------------------------------------------------------------------------------
-- Records as tables and as lists
-----------------------------------------------------------------------------------------

/-- How a record takes a list of its fields: only with all of them, or with the first ones, too. -/
inductive Layout
  | whole (names : List String)
  | leading (names : List String)

namespace Layout

/-- The names of the fields in order. -/
def names : Layout → List String
  | .whole names | .leading names => names

/-- Whether a list has as many items as it may have. -/
def Fits (items : List Tree) : Layout → Prop
  | .whole names => items.length = names.length
  | .leading names => items.length ≤ names.length

instance (items : List Tree) (layout : Layout) : Decidable (layout.Fits items) :=
  match layout with
  | .whole names => inferInstanceAs (Decidable (items.length = names.length))
  | .leading names => inferInstanceAs (Decidable (items.length ≤ names.length))

/-- What is read from a tree for the fields. -/
def seen? (tree : Tree) : Layout → Option (List (Option Tree))
  | .whole names => tree.allFields? names
  | .leading names => tree.fields? .refused names

/-- Of a table only the fields of the record are seen. -/
theorem seen?_table (layout : Layout) (fields : List (String × Tree))
    : layout.seen? (.table fields) = some (layout.names.map fun name => fields.lookup name) := by
  cases layout <;> rfl

/-- A list that fits is seen like the table of its names. -/
theorem seen?_list {layout : Layout} (distinct : layout.names.Nodup) {items : List Tree}
    (fits : layout.Fits items)
    : layout.seen? (.list items) = layout.seen? (.table (layout.names.zip items)) := by
  cases layout with
  | whole names => exact Tree.allFields?_list distinct fits
  | leading names => exact Tree.fields?_list .refused distinct fits

end Layout

-----------------------------------------------------------------------------------------
-- All written forms
-----------------------------------------------------------------------------------------

/-- The kinds of values that have a written form. -/
inductive Kind
  | target
  | event
  | failure
  | budget
  | counters
  | user
  | sessionId
  | config
  | roleHolder
  | updaterLaunch
  | package
  | dryRun

namespace Kind

/-- The values of a kind. -/
def Value : Kind → Type
  | .target => Target
  | .event => Event
  | .failure => Failure
  | .budget => Budget
  | .counters => Counters
  | .user => User
  | .sessionId => SessionId
  | .config => Config
  | .roleHolder => RoleHolderConfig
  | .updaterLaunch => UpdaterLaunchConfig
  | .package => Package
  | .dryRun => DryRunConfig

/-- Writes a value. -/
def write : (kind : Kind) → kind.Value → Tree
  | .target => Target.toTree
  | .event => Event.toTree
  | .failure => Failure.toTree
  | .budget => Budget.toTree
  | .counters => Counters.toTree
  | .user => User.toTree
  | .sessionId => SessionId.toTree
  | .config => Config.toTree
  | .roleHolder => RoleHolderConfig.toTree
  | .updaterLaunch => UpdaterLaunchConfig.toTree
  | .package => Package.toTree
  | .dryRun => DryRunConfig.toTree

/-- Reads a value; a list that is too long is refused. -/
def read? : (kind : Kind) → Tree → Option kind.Value
  | .target => Target.ofTree?
  | .event => Event.ofTree?
  | .failure => Failure.ofTree?
  | .budget => Budget.ofTree?
  | .counters => Counters.ofTree?
  | .user => User.ofTree?
  | .sessionId => SessionId.ofTree?
  | .config => Config.ofTree? .refused
  | .roleHolder => RoleHolderConfig.ofTree? .refused
  | .updaterLaunch => UpdaterLaunchConfig.ofTree? .refused
  | .package => Package.ofTree? .refused
  | .dryRun => DryRunConfig.ofTree? .refused

/-- Writes what is read from a tree. -/
def rewrite? (kind : Kind) (tree : Tree) : Option Tree := (kind.read? tree).map kind.write

/-- The layout of a kind of records. -/
def layout? : Kind → Option Layout
  | .target => some (.whole Target.fieldNames)
  | .budget => some (.whole Budget.fieldNames)
  | .counters => some (.whole Counters.fieldNames)
  | .config => some (.leading Config.fieldNames)
  | .roleHolder => some (.leading RoleHolderConfig.fieldNames)
  | .updaterLaunch => some (.leading UpdaterLaunchConfig.fieldNames)
  | .package => some (.leading Package.fieldNames)
  | .dryRun => some (.leading DryRunConfig.fieldNames)
  | .event | .failure | .user | .sessionId => none

/-- The fields that may be left out of a table, with what they stand for then. -/
def defaults : Kind → List (String × Tree)
  | .target => Target.defaults
  | .config => Config.defaults
  | .roleHolder => RoleHolderConfig.defaults
  | .updaterLaunch => UpdaterLaunchConfig.defaults
  | .package => Package.defaults
  | .dryRun => DryRunConfig.defaults
  | .event | .failure | .budget | .counters | .user | .sessionId => []

/-- What is written for a value is read as that value. -/
theorem read?_write (kind : Kind) (value : kind.Value)
    : kind.read? (kind.write value) = some value := by
  cases kind with
  | target => exact Target.ofTree?_toTree value
  | event => exact Event.ofTree?_toTree value
  | failure => exact Failure.ofTree?_toTree value
  | budget => exact Budget.ofTree?_toTree value
  | counters => exact Counters.ofTree?_toTree value
  | user => exact User.ofTree?_toTree value
  | sessionId => exact SessionId.ofTree?_toTree value
  | config => exact Config.ofTree?_toTree .refused value
  | roleHolder => exact RoleHolderConfig.ofTree?_toTree .refused value
  | updaterLaunch => exact UpdaterLaunchConfig.ofTree?_toTree .refused value
  | package => exact Package.ofTree?_toTree .refused value
  | dryRun => exact DryRunConfig.ofTree?_toTree .refused value

theorem nodup_names {kind : Kind} {layout : Layout} (record : kind.layout? = some layout)
    : layout.names.Nodup := by
  cases kind <;> cases record <;> decide

/-- A record is written as a table of all its fields in order. -/
theorem write_record {kind : Kind} {layout : Layout} (record : kind.layout? = some layout)
    (value : kind.Value)
    : ∃ items,
        items.length = layout.names.length
        ∧ kind.write value = .table (layout.names.zip items) := by
  cases kind <;> cases record
  case target => exact ⟨[_, _, _], rfl, rfl⟩
  case budget => exact ⟨[_, _, _], rfl, rfl⟩
  case counters => exact ⟨[_, _], rfl, rfl⟩
  case config => exact ⟨[_, _, _, _], rfl, rfl⟩
  case roleHolder => exact ⟨[_, _, _], rfl, rfl⟩
  case updaterLaunch => exact ⟨[_, _, _], rfl, rfl⟩
  case package => exact ⟨[_, _, _], rfl, rfl⟩
  case dryRun => exact ⟨[_], rfl, rfl⟩

/-- A record is read from what is seen for its fields, and from nothing else. -/
theorem read?_congr {kind : Kind} {layout : Layout} (record : kind.layout? = some layout)
    {one other : Tree} (same : layout.seen? one = layout.seen? other)
    : kind.read? one = kind.read? other := by
  cases kind <;> cases record <;> simp only [Layout.seen?] at same <;>
    simp only [read?, Target.ofTree?, Budget.ofTree?, Counters.ofTree?, Config.ofTree?,
      RoleHolderConfig.ofTree?, UpdaterLaunchConfig.ofTree?, Package.ofTree?, DryRunConfig.ofTree?,
      same] <;>
    rfl

/-- Order and other fields of a table make no difference. -/
theorem read?_table_congr {kind : Kind} {layout : Layout} (record : kind.layout? = some layout)
    {fields more : List (String × Tree)}
    (same : ∀ name ∈ layout.names, more.lookup name = fields.lookup name)
    : kind.read? (.table more) = kind.read? (.table fields) := by
  apply read?_congr record
  rw [Layout.seen?_table, Layout.seen?_table, List.map_congr_left same]

/-- A list that fits is read like the table of its names. -/
theorem read?_list {kind : Kind} {layout : Layout} (record : kind.layout? = some layout)
    {items : List Tree} (fits : layout.Fits items)
    : kind.read? (.list items) = kind.read? (.table (layout.names.zip items)) :=
  read?_congr record (Layout.seen?_list (nodup_names record) fits)

/-- A table is read alike where its missing fields are filled in. -/
theorem read?_defaults (kind : Kind) (fields : List (String × Tree))
    : kind.read? (.table (fields ++ kind.defaults)) = kind.read? (.table fields) := by
  cases kind with
  | target => exact Target.ofTree?_defaults fields
  | config => exact Config.ofTree?_defaults .refused fields
  | roleHolder => exact RoleHolderConfig.ofTree?_defaults .refused fields
  | updaterLaunch => exact UpdaterLaunchConfig.ofTree?_defaults .refused fields
  | package => exact Package.ofTree?_defaults .refused fields
  | dryRun => exact DryRunConfig.ofTree?_defaults .refused fields
  | event | failure | budget | counters | user | sessionId => rw [defaults, List.append_nil]

/-- What is read is written in a form that is read as the same value, is kept as it is when written
again, and is the one form that all trees with that value have.
-/
theorem rewrite?_settles {kind : Kind} {tree : Tree} {value : kind.Value}
    (read : kind.read? tree = some value)
    : ∃ normal,
        kind.rewrite? tree = some normal
        ∧ kind.read? normal = some value
        ∧ kind.rewrite? normal = some normal
        ∧ ∀ other, kind.rewrite? other = some normal ↔ kind.read? other = some value := by
  have back := kind.read?_write value
  refine ⟨kind.write value, ?_, back, ?_, fun other => ⟨?_, ?_⟩⟩
  · rw [rewrite?, read, Option.map_some]
  · rw [rewrite?, back, Option.map_some]
  · intro same
    obtain ⟨written, readOther, same⟩ := Option.map_eq_some_iff.mp same
    -- Values that are written alike are equal, as each is read back from that form.
    have := kind.read?_write written
    rw [same, back] at this
    exact readOther.trans this.symm
  · intro readOther
    rw [rewrite?, readOther, Option.map_some]

/-- Values are read back as they were written. Whatever a value is read from, it is written in one
form, which is read as that value and written like that again. Records are read alike from tables
with their fields in any order, with other fields and without the fields that go without saying, and
from lists that fit; a choice may stand in a table, other fields of an event are passed over, and a
billion nanoseconds or more are carried over into seconds.
-/
theorem written_forms_settle
    : (∀ (kind : Kind) (value : kind.Value), kind.read? (kind.write value) = some value)
      ∧ (∀ (kind : Kind) (tree : Tree) (value : kind.Value),
          kind.read? tree = some value →
            ∃ normal,
              kind.rewrite? tree = some normal
              ∧ kind.read? normal = some value
              ∧ kind.rewrite? normal = some normal
              ∧ ∀ other, kind.rewrite? other = some normal ↔ kind.read? other = some value)
      ∧ (∀ (kind : Kind) (layout : Layout),
          kind.layout? = some layout →
            (∀ value,
              ∃ items,
                items.length = layout.names.length
                ∧ kind.write value = .table (layout.names.zip items))
            ∧ (∀ fields more,
                (∀ name ∈ layout.names, more.lookup name = fields.lookup name) →
                  kind.read? (.table more) = kind.read? (.table fields))
            ∧ (∀ items,
                layout.Fits items →
                  kind.read? (.list items) = kind.read? (.table (layout.names.zip items))))
      ∧ (∀ (kind : Kind) (fields : List (String × Tree)),
          kind.read? (.table (fields ++ kind.defaults)) = kind.read? (.table fields))
      ∧ (∀ name, failure.read? (.table [(name, .null)]) = failure.read? (.text name))
      ∧ (∀ (name : String) (fields more : List (String × Tree)),
          (∀ field ∈ ["target", "reason"], more.lookup field = fields.lookup field) →
            event.read? (.table [(name, .table more)])
              = event.read? (.table [(name, .table fields)]))
      ∧ (∀ (launchMax updateMax : UInt32) (secs : UInt64) (nanos : UInt32),
          ∀ form ∈ Span.forms secs nanos,
            secs.toNat + nanos.toNat / nanosPerSecond < UInt64.size →
              budget.rewrite? (.list [.whole launchMax.toNat, .whole updateMax.toNat, form])
                = some (.table [("launch_max_retries", .whole launchMax.toNat),
                    ("update_max_retries", .whole updateMax.toNat),
                    ("retry_delay",
                      .table [("secs", .whole ↑(secs.toNat + nanos.toNat / nanosPerSecond)),
                        ("nanos", .whole ↑(nanos.toNat % nanosPerSecond))])])) := by
  refine ⟨read?_write, fun _ _ _ => rewrite?_settles, ?_, read?_defaults, fun _ => rfl, ?_, ?_⟩
  · intro kind layout record
    exact ⟨write_record record, fun _ _ => read?_table_congr record, fun _ => read?_list record⟩
  · intro name fields more same
    exact Event.ofTree?_congr name same
  · intro launchMax updateMax secs nanos form written kept
    exact Budget.toTree_ofTree?_list launchMax updateMax written kept

/-- A configuration as a list with sections of either sort, a package that tells its name only, a
table in disorder with a note, and one second and a half that is given in nanoseconds.
-/
theorem written_forms_settle_from_wide
    : (∃ normal,
        config.rewrite? (.list [.table [("note", .null)], .list [.whole 5]]) = some normal
        ∧ config.read? normal = some ({ updaterLaunch := { launchRetryDelayMs := 5 } } : Config)
        ∧ config.rewrite? normal = some normal)
      ∧ package.read? (.list [.text "dpc"]) = package.read? (.table [("name", .text "dpc")])
      ∧ counters.read?
          (.table [("note", .null), ("launch_tries", .whole 2), ("update_tries", .whole 1)])
        = counters.read? (.table [("update_tries", .whole 1), ("launch_tries", .whole 2)])
      ∧ event.read?
          (.table [("Failed", .table [("note", .null), ("reason", .text "ExceededUpdateRetries")])])
        = event.read? (.table [("Failed", .table [("reason", .text "ExceededUpdateRetries")])])
      ∧ budget.rewrite? (.list [.whole 3, .whole 3, .list [.whole 0, .whole 1500000000]])
        = some (.table [("launch_max_retries", .whole 3), ("update_max_retries", .whole 3),
            ("retry_delay", .table [("secs", .whole 1), ("nanos", .whole 500000000)])]) := by
  obtain ⟨-, settles, records, -, -, events, budgets⟩ := written_forms_settle
  obtain ⟨normal, rewritten, back, kept, -⟩ :=
    settles .config (.list [.table [("note", .null)], .list [.whole 5]])
      ({ updaterLaunch := { launchRetryDelayMs := 5 } } : Config) rfl
  refine ⟨⟨normal, rewritten, back, kept⟩, ?_, ?_, ?_, ?_⟩
  · exact (records .package _ rfl).2.2 [.text "dpc"] (by decide)
  · refine (records .counters _ rfl).2.1 _ _ ?_
    simp [Layout.names, Counters.fieldNames, List.lookup_cons]
  · refine events _ _ _ ?_
    simp [List.lookup_cons]
  · exact budgets 3 3 0 1500000000 _ (.tail _ (.tail _ (.head _))) (by decide)

end Kind

end UpdaterLaunch
