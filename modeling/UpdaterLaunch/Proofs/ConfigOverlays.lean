import Mathlib.Data.List.Forall2
import UpdaterLaunch.Proofs.WrittenForms

/-! A configuration that is given in part is the built-in one with what is given laid over it. That
is so field by field, on every level: a section that is not given is as if nothing were given in it,
and what has a name of no field is passed over. Numbers are taken as they are or not at all.
-/

namespace UpdaterLaunch

universe u v

-----------------------------------------------------------------------------------------
-- Records that are given in part
-----------------------------------------------------------------------------------------

namespace Tree

/-- The entries that a tree has for a record with fields of some names: those of a table, where no
name occurs twice, or the items of a list, which stand for the first fields in order.
-/
inductive HasEntries (names : List String) : Tree → List (String × Tree) → Prop
  | table {fields} (distinct : (fields.map (·.1)).Nodup) : HasEntries names (.table fields) fields
  | list {items} (short : items.length ≤ names.length)
    : HasEntries names (.list items) (names.zip items)

/-- What is given for a field has an entry that it is written in; for what is not given there is no
entry.
-/
def Gives {α : Type u} (entries : List (String × Tree)) (name : String)
    (isWritten : α → Tree → Prop)
    : Option α → Prop
  | none => ∀ tree, (name, tree) ∉ entries
  | some value => ∃ tree, (name, tree) ∈ entries ∧ isWritten value tree

/-- Items stand for fields of different names, by induction on the names. -/
theorem nodup_zip {names : List String} (distinct : names.Nodup) (items : List Tree)
    : ((names.zip items).map (·.1)).Nodup := by
  induction names generalizing items with
  | nil => exact .nil
  | cons name rest ih =>
      obtain ⟨fresh, distinct⟩ := List.nodup_cons.mp distinct
      cases items with
      | nil => exact .nil
      | cons item items =>
          refine List.nodup_cons.mpr ⟨fun member => fresh ?_, ih distinct items⟩
          obtain ⟨entry, paired, rfl⟩ := List.mem_map.mp member
          exact (List.of_mem_zip paired).1

/-- What is read from a tree for a record is what stands in its entries. -/
theorem HasEntries.fields? {names : List String} {tree : Tree} {entries : List (String × Tree)}
    (has : tree.HasEntries names entries) (distinct : names.Nodup) (surplus : Surplus)
    : tree.fields? surplus names = some (names.map fun name => entries.lookup name)
      ∧ (entries.map (·.1)).Nodup := by
  cases has with
  | table keys => exact ⟨rfl, keys⟩
  | @list items short =>
      exact ⟨(fields?_list surplus distinct short).trans (fields?_table surplus names _),
        nodup_zip distinct items⟩

/-- What is found under a name does not depend on the order of entries with different names. -/
theorem lookup_perm {entries others : List (String × Tree)}
    (distinct : (entries.map (·.1)).Nodup) (same : others.Perm entries) (name : String)
    : others.lookup name = entries.lookup name := by
  have others_distinct := (same.map (·.1)).nodup_iff.mpr distinct
  refine Option.ext fun tree => ?_
  rw [← mem_iff_lookup distinct, ← mem_iff_lookup others_distinct, same.mem_iff]

/-- A field is read as what is given for it, or else as its default, which stands for some value,
too.
-/
theorem orDefault?_iff {α : Type u} {β : Type} {entries : List (String × Tree)} {name : String}
    {isWritten : α → Tree → Prop} {value? : Tree → Option β} {denotes : α → β → Prop}
    {given : Option α}
    (reads
      : ∀ value tree,
          isWritten value tree → ∀ result, value? tree = some result ↔ denotes value result)
    (distinct : (entries.map (·.1)).Nodup) (gives : Gives entries name isWritten given)
    (fallback : α) (default : β) (falls : ∀ result, default = result ↔ denotes fallback result)
    (result : β)
    : orDefault? value? default (entries.lookup name) = some result
      ↔ denotes (given.getD fallback) result := by
  cases given with
  | none =>
      have missing : entries.lookup name = none := by
        refine List.lookup_eq_none_iff.mpr fun entry member => ?_
        have ne : name ≠ entry.1 := fun same => gives entry.2 (same ▸ member)
        simpa using ne
      rw [missing, orDefault?, Option.some.injEq]
      exact falls result
  | some value =>
      obtain ⟨tree, member, written⟩ := gives
      rw [(mem_iff_lookup distinct name tree).mp member]
      exact reads value tree written result

/-- A field whose values are read back is read as the value given for it, or else as its default. -/
theorem orDefault?_eq_iff {α : Type} {entries : List (String × Tree)} {name : String}
    {write : α → Tree} {given : Option α} (value? : Tree → Option α)
    (back : ∀ value, value? (write value) = some value)
    (distinct : (entries.map (·.1)).Nodup)
    (gives : Gives entries name (fun value tree => tree = write value) given) (default result : α)
    : orDefault? value? default (entries.lookup name) = some result
      ↔ given.getD default = result :=
  orDefault?_iff (fun value tree written result => by rw [written, back, Option.some.injEq])
    distinct gives default default (fun _ => .rfl) result

/-- A text that may be missing is read as what is given for it, be it a text or none. -/
theorem optional?_eq_iff {entries : List (String × Tree)} {name : String}
    {given : Option (Option String)} (distinct : (entries.map (·.1)).Nodup)
    (gives
      : Gives entries name (fun value tree => tree = RoleHolderConfig.optionalText value) given)
    (result : Option String)
    : optional? text? (entries.lookup name) = some result ↔ given.getD none = result := by
  have asDefault (found : Option Tree)
      : optional? text? found
        = orDefault? (fun tree => optional? text? (some tree)) none found := by
    cases found <;> rfl
  rw [asDefault]
  exact orDefault?_eq_iff _ (fun value => by cases value <;> rfl) distinct gives none result

/-- Rows that are read item by item are read as what their items denote, by induction. -/
theorem mapM_iff {α : Type u} {β : Type} {isWritten : α → Tree → Prop}
    {value? : Tree → Option β} {denotes : α → β → Prop}
    (reads
      : ∀ value tree,
          isWritten value tree → ∀ result, value? tree = some result ↔ denotes value result)
    {values : List α} {items : List Tree} (written : List.Forall₂ isWritten values items)
    (results : List β)
    : items.mapM value? = some results ↔ List.Forall₂ denotes values results := by
  induction written generalizing results with
  | nil => cases results <;> simp
  | @cons value tree values items first rest ih =>
      cases results with
      | nil => simp [Option.bind_eq_some_iff]
      | cons result results =>
          simp [Option.bind_eq_some_iff, reads value tree first, ih, List.forall₂_cons]

end Tree

-----------------------------------------------------------------------------------------
-- Numbers
-----------------------------------------------------------------------------------------

/-- A number that is written where a whole one is expected: a whole one, or one that is not written
as a whole number or is too large for one.
-/
inductive Number
  | whole (value : Int)
  | real

namespace Number

/-- Writes a number. -/
def toTree : Number → Tree
  | .whole value => .whole value
  | .real => .real

/-- A number is one of those below a bound. -/
def Below (bound : Nat) (number : Number) : Prop := ∃ value < bound, number = .whole (value : Nat)

theorem below?_iff (bound : Nat) (number : Number) (value : Nat)
    : number.toTree.below? bound = some value ↔ value < bound ∧ number = .whole value := by
  cases number with
  | real => simp [toTree, Tree.below?]
  | whole written =>
      cases written with
      | ofNat n =>
          simp only [toTree, Tree.below?, whole.injEq, Int.ofNat_eq_natCast, Int.natCast_inj]
          split
          · simp only [Option.some.injEq]
            omega
          · simp only [reduceCtorEq, false_iff]
            omega
      | negSucc n => simp [toTree, Tree.below?]

end Number

namespace Width

variable {ω : Type} (width : Width ω)

/-- A number is read as the number that it is, or not at all. -/
theorem ofTree?_iff (number : Number) (value : ω)
    : width.ofTree? number.toTree = some value ↔ number = .whole (width.toNat value) := by
  rw [ofTree?, Option.map_eq_some_iff]
  constructor
  · rintro ⟨n, below, rfl⟩
    obtain ⟨fits, rfl⟩ := (Number.below?_iff _ _ _).mp below
    rw [width.toNat_ofNat fits]
  · rintro rfl
    have fits := width.toNat_lt value
    exact ⟨width.toNat value, (Number.below?_iff _ _ _).mpr ⟨fits, rfl⟩, width.ofNat_toNat value⟩

variable {entries : List (String × Tree)} {name : String} {given : Option Number}

/-- A field is read as the number given for it, or else as its default. -/
theorem orDefault?_iff (distinct : (entries.map (·.1)).Nodup)
    (gives : Tree.Gives entries name (fun number tree => tree = number.toTree) given)
    (default result : ω)
    : Tree.orDefault? width.ofTree? default (entries.lookup name) = some result
      ↔ given.getD (.whole (width.toNat default)) = .whole (width.toNat result) := by
  have reads (number : Number) (tree : Tree) (written : tree = number.toTree) (result : ω)
      : width.ofTree? tree = some result ↔ number = .whole (width.toNat result) := by
    rw [written, width.ofTree?_iff]
  refine Tree.orDefault?_iff reads distinct gives (.whole (width.toNat default)) default ?_ result
  intro result
  rw [Number.whole.injEq, Int.natCast_inj, width.toNat_inj]

/-- The numbers below the bound stand for a value each, and so does a default. -/
theorem exists_iff (default : ω)
    : (∃ result : ω, given.getD (.whole (width.toNat default)) = .whole (width.toNat result))
      ↔ ∀ number ∈ given, number.Below width.bound := by
  cases given with
  | none => exact iff_of_true ⟨default, rfl⟩ nofun
  | some number =>
      simp only [Option.getD_some, Option.mem_some_iff, forall_eq']
      constructor
      · rintro ⟨result, rfl⟩
        exact ⟨width.toNat result, width.toNat_lt result, rfl⟩
      · rintro ⟨value, below, rfl⟩
        exact ⟨width.ofNat value, by rw [width.toNat_ofNat below]⟩

end Width

-----------------------------------------------------------------------------------------
-- Sections that are given in part
-----------------------------------------------------------------------------------------

section Sections

variable (surplus : Tree.Surplus) {tree : Tree}

/-- What is given of the section on the role holder. -/
structure RoleHolderConfig.Given where
  packageName : Option (Option String) := none
  updaterPackageName : Option (Option String) := none
  deferProvisioning : Option Bool := none

namespace RoleHolderConfig.Given

/-- A tree has entries for what is given, and for no other field. -/
def WrittenAs (given : Given) (tree : Tree) : Prop :=
  ∃ entries,
    tree.HasEntries fieldNames entries
    ∧ Tree.Gives entries "package_name" (fun name tree => tree = optionalText name)
        given.packageName
    ∧ Tree.Gives entries "updater_package_name" (fun name tree => tree = optionalText name)
        given.updaterPackageName
    ∧ Tree.Gives entries "defer_provisioning_to_role_holder" (fun defer tree => tree = .flag defer)
        given.deferProvisioning

/-- A section has what is given, names no packages and hands nothing over beyond that. -/
def Sets (given : Given) (config : RoleHolderConfig) : Prop :=
  given.packageName.getD none = config.packageName
  ∧ given.updaterPackageName.getD none = config.updaterPackageName
  ∧ given.deferProvisioning.getD false = config.deferProvisioning

theorem ofTree?_iff {given : Given} (written : given.WrittenAs tree) (config : RoleHolderConfig)
    : ofTree? surplus tree = some config ↔ given.Sets config := by
  obtain ⟨entries, has, package, updater, defer⟩ := written
  obtain ⟨seen, distinct⟩ := has.fields? (by decide) surplus
  rw [Sets, ← Tree.optional?_eq_iff distinct package, ← Tree.optional?_eq_iff distinct updater,
    ← Tree.orDefault?_eq_iff Tree.flag? (fun _ => rfl) distinct defer, ofTree?, seen]
  simp only [fieldNames, List.map_cons, List.map_nil, Option.bind_eq_bind, Option.bind_some,
    Option.pure_def, Option.bind_eq_some_iff, Option.some.injEq]
  constructor
  · rintro ⟨_, package, _, updater, _, defer, rfl⟩
    exact ⟨package, updater, defer⟩
  · rintro ⟨package, updater, defer⟩
    exact ⟨_, package, _, updater, _, defer, rfl⟩

theorem sets_nothing (config : RoleHolderConfig) : {} = config ↔ Sets {} config := by
  have nothing : WrittenAs {} (.table []) :=
    ⟨[], .table .nil, fun _ => List.not_mem_nil, fun _ => List.not_mem_nil,
      fun _ => List.not_mem_nil⟩
  exact (iff_of_eq (Option.some.injEq _ _)).symm.trans (ofTree?_iff .ignored nothing config)

/-- There is always a section that has what is given. -/
theorem sets_own (given : Given)
    : given.Sets ⟨given.packageName.getD none, given.updaterPackageName.getD none,
        given.deferProvisioning.getD false⟩ :=
  ⟨rfl, rfl, rfl⟩

end RoleHolderConfig.Given

/-- What is given of the section on the updater's launch. -/
structure UpdaterLaunchConfig.Given where
  launchRetryDelayMs : Option Number := none
  launchMaxRetries : Option Number := none
  updateMaxRetries : Option Number := none

namespace UpdaterLaunchConfig.Given

/-- A tree has entries for what is given, and for no other field. -/
def WrittenAs (given : Given) (tree : Tree) : Prop :=
  ∃ entries,
    tree.HasEntries fieldNames entries
    ∧ Tree.Gives entries "launch_retry_delay_ms" (fun number tree => tree = number.toTree)
        given.launchRetryDelayMs
    ∧ Tree.Gives entries "launch_max_retries" (fun number tree => tree = number.toTree)
        given.launchMaxRetries
    ∧ Tree.Gives entries "update_max_retries" (fun number tree => tree = number.toTree)
        given.updateMaxRetries

/-- A section has the numbers that are given, and otherwise waits for a minute and retries three
times.
-/
def Sets (given : Given) (config : UpdaterLaunchConfig) : Prop :=
  given.launchRetryDelayMs.getD (.whole 60000) = .whole config.launchRetryDelayMs.toNat
  ∧ given.launchMaxRetries.getD (.whole 3) = .whole config.launchMaxRetries.toNat
  ∧ given.updateMaxRetries.getD (.whole 3) = .whole config.updateMaxRetries.toNat

theorem ofTree?_iff {given : Given} (written : given.WrittenAs tree) (config : UpdaterLaunchConfig)
    : ofTree? surplus tree = some config ↔ given.Sets config := by
  obtain ⟨entries, has, delay, launches, updates⟩ := written
  obtain ⟨seen, distinct⟩ := has.fields? (by decide) surplus
  refine Iff.trans ?_ (and_congr (Width.bits64.orDefault?_iff distinct delay 60000 _)
    (and_congr (Width.bits32.orDefault?_iff distinct launches 3 _)
      (Width.bits32.orDefault?_iff distinct updates 3 _)))
  rw [ofTree?, seen]
  simp only [fieldNames, List.map_cons, List.map_nil, Option.bind_eq_bind, Option.bind_some,
    Option.pure_def, Option.bind_eq_some_iff, Option.some.injEq]
  constructor
  · rintro ⟨_, delay, _, launches, _, updates, rfl⟩
    exact ⟨delay, launches, updates⟩
  · rintro ⟨delay, launches, updates⟩
    exact ⟨_, delay, _, launches, _, updates, rfl⟩

theorem sets_nothing (config : UpdaterLaunchConfig) : {} = config ↔ Sets {} config := by
  have nothing : WrittenAs {} (.table []) :=
    ⟨[], .table .nil, fun _ => List.not_mem_nil, fun _ => List.not_mem_nil,
      fun _ => List.not_mem_nil⟩
  exact (iff_of_eq (Option.some.injEq _ _)).symm.trans (ofTree?_iff .ignored nothing config)

/-- Every number that is given is one of its field's range. -/
def InRange (given : Given) : Prop :=
  (∀ number ∈ given.launchRetryDelayMs, number.Below UInt64.size)
  ∧ (∀ number ∈ given.launchMaxRetries, number.Below UInt32.size)
  ∧ (∀ number ∈ given.updateMaxRetries, number.Below UInt32.size)

theorem exists_sets_iff (given : Given) : (∃ config, given.Sets config) ↔ given.InRange := by
  refine Iff.trans ?_ (and_congr (Width.bits64.exists_iff 60000)
    (and_congr (Width.bits32.exists_iff 3) (Width.bits32.exists_iff 3)))
  constructor
  · rintro ⟨config, delay, launches, updates⟩
    exact ⟨⟨_, delay⟩, ⟨_, launches⟩, ⟨_, updates⟩⟩
  · rintro ⟨⟨_, delay⟩, ⟨_, launches⟩, ⟨_, updates⟩⟩
    exact ⟨⟨_, _, _⟩, delay, launches, updates⟩

end UpdaterLaunchConfig.Given

/-- What is given of a package. -/
structure Package.Given where
  name : Option String := none
  handledActions : Option (List String) := none
  stub : Option Bool := none

namespace Package.Given

/-- A tree has entries for what is given, and for no other field. -/
def WrittenAs (given : Given) (tree : Tree) : Prop :=
  ∃ entries,
    tree.HasEntries fieldNames entries
    ∧ Tree.Gives entries "name" (fun name tree => tree = .text name) given.name
    ∧ Tree.Gives entries "handled_actions" (fun actions tree => tree = .list (actions.map .text))
        given.handledActions
    ∧ Tree.Gives entries "stub" (fun stub tree => tree = .flag stub) given.stub

/-- A package is what is given of it, and else has an empty name, no actions and is no stub. -/
def Sets (given : Given) (package : Package) : Prop :=
  given.name.getD "" = package.name
  ∧ given.handledActions.getD [] = package.handledActions
  ∧ given.stub.getD false = package.stub

theorem ofTree?_iff {given : Given} {tree : Tree} (written : given.WrittenAs tree)
    (package : Package)
    : ofTree? surplus tree = some package ↔ given.Sets package := by
  obtain ⟨entries, has, name, actions, stub⟩ := written
  obtain ⟨seen, distinct⟩ := has.fields? (by decide) surplus
  have back (actions : List String)
      : Tree.listOf? Tree.text? (.list (actions.map .text)) = some actions :=
    Tree.listOf?_map Tree.text Tree.text? (fun _ => rfl) actions
  rw [Sets, ← Tree.orDefault?_eq_iff Tree.text? (fun _ => rfl) distinct name,
    ← Tree.orDefault?_eq_iff (Tree.listOf? Tree.text?) back distinct actions,
    ← Tree.orDefault?_eq_iff Tree.flag? (fun _ => rfl) distinct stub, ofTree?, seen]
  simp only [fieldNames, List.map_cons, List.map_nil, Option.bind_eq_bind, Option.bind_some,
    Option.pure_def, Option.bind_eq_some_iff, Option.some.injEq]
  constructor
  · rintro ⟨_, name, _, actions, _, stub, rfl⟩
    exact ⟨name, actions, stub⟩
  · rintro ⟨name, actions, stub⟩
    exact ⟨_, name, _, actions, _, stub, rfl⟩

/-- There is always a package that is what is given. -/
theorem sets_own (given : Given)
    : given.Sets ⟨given.name.getD "", given.handledActions.getD [], given.stub.getD false⟩ :=
  ⟨rfl, rfl, rfl⟩

/-- Packages can be given in any number, by induction. -/
theorem exists_sets_all (given : List Given)
    : ∃ packages, List.Forall₂ Sets given packages := by
  induction given with
  | nil => exact ⟨[], .nil⟩
  | cons first rest ih =>
      obtain ⟨packages, sets⟩ := ih
      exact ⟨_ :: packages, .cons first.sets_own sets⟩

end Package.Given

/-- What is given of the section on dry runs. -/
structure DryRunConfig.Given where
  failedUpdates : Option Number := none

namespace DryRunConfig.Given

/-- A tree has an entry for what is given, or none. -/
def WrittenAs (given : Given) (tree : Tree) : Prop :=
  ∃ entries,
    tree.HasEntries fieldNames entries
    ∧ Tree.Gives entries "failed_updates" (fun number tree => tree = number.toTree)
        given.failedUpdates

/-- A section has the number that is given, or else lets no update fail. -/
def Sets (given : Given) (config : DryRunConfig) : Prop :=
  given.failedUpdates.getD (.whole 0) = .whole config.failedUpdates.toNat

theorem ofTree?_iff {given : Given} (written : given.WrittenAs tree) (config : DryRunConfig)
    : ofTree? surplus tree = some config ↔ given.Sets config := by
  obtain ⟨entries, has, failed⟩ := written
  obtain ⟨seen, distinct⟩ := has.fields? (by decide) surplus
  refine Iff.trans ?_ (Width.bits32.orDefault?_iff distinct failed 0 config.failedUpdates)
  rw [ofTree?, seen]
  simp only [fieldNames, List.map_cons, List.map_nil, Option.bind_eq_bind, Option.bind_some,
    Option.pure_def, Option.bind_eq_some_iff, Option.some.injEq]
  constructor
  · rintro ⟨_, failed, rfl⟩
    exact failed
  · exact fun failed => ⟨_, failed, rfl⟩

theorem sets_nothing (config : DryRunConfig) : {} = config ↔ Sets {} config := by
  have nothing : WrittenAs {} (.table []) :=
    ⟨[], .table .nil, fun _ => List.not_mem_nil⟩
  exact (iff_of_eq (Option.some.injEq _ _)).symm.trans (ofTree?_iff .ignored nothing config)

/-- A number that is given is one of its field's range. -/
def InRange (given : Given) : Prop := ∀ number ∈ given.failedUpdates, number.Below UInt32.size

theorem exists_sets_iff (given : Given) : (∃ config, given.Sets config) ↔ given.InRange := by
  refine Iff.trans ?_ (Width.bits32.exists_iff 0)
  exact ⟨fun ⟨_, failed⟩ => ⟨_, failed⟩, fun ⟨_, failed⟩ => ⟨⟨_⟩, failed⟩⟩

end DryRunConfig.Given

-----------------------------------------------------------------------------------------
-- Configurations that are given in part
-----------------------------------------------------------------------------------------

/-- What is given of a configuration: of each section that there is, and of each package. -/
structure Config.Given where
  roleHolder : Option RoleHolderConfig.Given := none
  updaterLaunch : Option UpdaterLaunchConfig.Given := none
  packages : Option (List Package.Given) := none
  dryRun : Option DryRunConfig.Given := none

namespace Config.Given

/-- A tree has an entry for each section that is given, and for no other. -/
def WrittenAs (given : Given) (tree : Tree) : Prop :=
  ∃ entries,
    tree.HasEntries fieldNames entries
    ∧ Tree.Gives entries "role_holder" RoleHolderConfig.Given.WrittenAs given.roleHolder
    ∧ Tree.Gives entries "updater_launch" UpdaterLaunchConfig.Given.WrittenAs given.updaterLaunch
    ∧ Tree.Gives entries "packages"
        (fun packages tree =>
          ∃ items, tree = .list items ∧ List.Forall₂ Package.Given.WrittenAs packages items)
        given.packages
    ∧ Tree.Gives entries "dry_run" DryRunConfig.Given.WrittenAs given.dryRun

/-- A configuration has the sections that are given. One that is not given is as if it was given
without any fields, and without packages there are none.
-/
def Sets (given : Given) (config : Config) : Prop :=
  (given.roleHolder.getD {}).Sets config.roleHolder
  ∧ (given.updaterLaunch.getD {}).Sets config.updaterLaunch
  ∧ List.Forall₂ Package.Given.Sets (given.packages.getD []) config.packages
  ∧ (given.dryRun.getD {}).Sets config.dryRun

theorem ofTree?_iff {given : Given} (written : given.WrittenAs tree) (config : Config)
    : ofTree? surplus tree = some config ↔ given.Sets config := by
  obtain ⟨entries, has, roleHolder, updaterLaunch, packages, dryRun⟩ := written
  obtain ⟨seen, distinct⟩ := has.fields? (by decide) surplus
  have readPackages (given : List Package.Given) (tree : Tree)
      : (∃ items, tree = .list items ∧ List.Forall₂ Package.Given.WrittenAs given items)
        → ∀ packages,
            tree.listOf? (Package.ofTree? surplus) = some packages
            ↔ List.Forall₂ Package.Given.Sets given packages := by
    rintro ⟨items, rfl, written⟩ packages
    exact Tree.mapM_iff (fun _ _ written => Package.Given.ofTree?_iff surplus written) written
      packages
  have noPackages (packages : List Package)
      : [] = packages ↔ List.Forall₂ Package.Given.Sets [] packages := by
    rw [List.forall₂_nil_left_iff, eq_comm]
  have forRoleHolder := Tree.orDefault?_iff
    (fun _ _ written => RoleHolderConfig.Given.ofTree?_iff surplus written) distinct roleHolder {}
    {} RoleHolderConfig.Given.sets_nothing
  have forUpdaterLaunch := Tree.orDefault?_iff
    (fun _ _ written => UpdaterLaunchConfig.Given.ofTree?_iff surplus written) distinct
    updaterLaunch {} {} UpdaterLaunchConfig.Given.sets_nothing
  have forPackages := Tree.orDefault?_iff readPackages distinct packages [] [] noPackages
  have forDryRun := Tree.orDefault?_iff
    (fun _ _ written => DryRunConfig.Given.ofTree?_iff surplus written) distinct dryRun {} {}
    DryRunConfig.Given.sets_nothing
  rw [Sets, ← forRoleHolder, ← forUpdaterLaunch, ← forPackages, ← forDryRun, ofTree?, seen]
  simp only [fieldNames, List.map_cons, List.map_nil, Option.bind_eq_bind, Option.bind_some,
    Option.pure_def, Option.bind_eq_some_iff, Option.some.injEq]
  constructor
  · rintro ⟨_, roleHolder, _, updaterLaunch, _, packages, _, dryRun, rfl⟩
    exact ⟨roleHolder, updaterLaunch, packages, dryRun⟩
  · rintro ⟨roleHolder, updaterLaunch, packages, dryRun⟩
    exact ⟨_, roleHolder, _, updaterLaunch, _, packages, _, dryRun, rfl⟩

/-- Every number that is given is one of its field's range. -/
def InRange (given : Given) : Prop :=
  (given.updaterLaunch.getD {}).InRange ∧ (given.dryRun.getD {}).InRange

theorem exists_sets_iff (given : Given) : (∃ config, given.Sets config) ↔ given.InRange := by
  rw [InRange, ← UpdaterLaunchConfig.Given.exists_sets_iff, ← DryRunConfig.Given.exists_sets_iff]
  constructor
  · rintro ⟨config, -, updaterLaunch, -, dryRun⟩
    exact ⟨⟨_, updaterLaunch⟩, ⟨_, dryRun⟩⟩
  · rintro ⟨⟨_, updaterLaunch⟩, ⟨_, dryRun⟩⟩
    obtain ⟨packages, described⟩ := Package.Given.exists_sets_all (given.packages.getD [])
    exact ⟨⟨_, _, packages, _⟩, (given.roleHolder.getD {}).sets_own, updaterLaunch, described,
      dryRun⟩

/-- A section that is not given is the built-in one. -/
theorem Sets.missing {given : Given} {config : Config} (sets : given.Sets config)
    : (given.roleHolder = none → config.roleHolder = {})
      ∧ (given.updaterLaunch = none → config.updaterLaunch = {})
      ∧ (given.packages = none → config.packages = [])
      ∧ (given.dryRun = none → config.dryRun = {}) := by
  obtain ⟨roleHolder, updaterLaunch, packages, dryRun⟩ := sets
  refine ⟨fun missing => ?_, fun missing => ?_, fun missing => ?_, fun missing => ?_⟩
  · rw [missing] at roleHolder
    exact ((RoleHolderConfig.Given.sets_nothing _).mpr roleHolder).symm
  · rw [missing] at updaterLaunch
    exact ((UpdaterLaunchConfig.Given.sets_nothing _).mpr updaterLaunch).symm
  · rw [missing] at packages
    exact List.forall₂_nil_left_iff.mp packages
  · rw [missing] at dryRun
    exact ((DryRunConfig.Given.sets_nothing _).mpr dryRun).symm

end Config.Given
end Sections

-----------------------------------------------------------------------------------------
-- Leading fields
-----------------------------------------------------------------------------------------

/-- The first fields of a record in order are read like the table of these fields. -/
theorem Kind.read?_leading {kind : Kind} {names : List String}
    (record : kind.layout? = some (.leading names)) {items : List Tree}
    (first : items.length ≤ names.length) {fields : List (String × Tree)}
    (same : fields.Perm (names.zip items))
    : kind.read? (.list items) = kind.read? (.table fields) := by
  have distinct : names.Nodup := nodup_names record
  rw [read?_list record first]
  exact read?_table_congr record fun name _ =>
    (Tree.lookup_perm (Tree.nodup_zip distinct items) same name).symm

/-- A configuration is read as what is given of it, laid over the built-in one: whatever sections,
fields of sections and packages, and fields of packages are given, as tables in any order with
entries of other names or as lists of the first fields. A number that is given must be one of its
field's range, and is read as itself; otherwise there is no configuration. Whatever is not given is
built in, and a list of the first fields is read like a table of them.
-/
theorem Config.Given.read_over_defaults {given : Given} {tree : Tree}
    (written : given.WrittenAs tree) (surplus : Tree.Surplus)
    : (∀ config, ofTree? surplus tree = some config ↔ given.Sets config)
      ∧ ((ofTree? surplus tree).isSome ↔ given.InRange)
      ∧ (∀ config,
          given.Sets config
          → (given.roleHolder = none → config.roleHolder = {})
            ∧ (given.updaterLaunch = none → config.updaterLaunch = {})
            ∧ (given.packages = none → config.packages = [])
            ∧ (given.dryRun = none → config.dryRun = {}))
      ∧ ∀ {kind : Kind} {names : List String},
          kind.layout? = some (.leading names)
          → ∀ {items : List Tree} {fields : List (String × Tree)},
              items.length ≤ names.length
              → fields.Perm (names.zip items)
              → kind.read? (.list items) = kind.read? (.table fields) := by
  refine ⟨ofTree?_iff surplus written, ?_, fun _ => Sets.missing, fun record _ _ first same =>
    Kind.read?_leading record first same⟩
  rw [Option.isSome_iff_exists, ← exists_sets_iff]
  exact exists_congr (ofTree?_iff surplus written)

/-- One section and two packages that are given in part, with entries of other names; and a number
that is one too large.
-/
theorem Config.Given.read_over_defaults_partly
    : ofTree? .refused
          (.table [
            ("packages", .list [.table [("stub", .flag true), ("notes", .null)],
              .list [.text "dpc"]]),
            ("updater_launch", .table [("update_max_retries", .whole 5)]),
            ("notes", .text "")])
        = some {
            updaterLaunch := { updateMaxRetries := 5 }
            packages := [{ stub := true }, { name := "dpc" }] }
      ∧ ofTree? .refused (.table [("dry_run", .list [.whole 4294967296])]) = none := by
  constructor
  · have updaterLaunch : UpdaterLaunchConfig.Given.WrittenAs
        { updateMaxRetries := some (.whole 5) } (.table [("update_max_retries", .whole 5)]) :=
      ⟨_, .table (by decide), by simp [Tree.Gives], by simp [Tree.Gives], _, .head _, rfl⟩
    have stub : Package.Given.WrittenAs { stub := some true }
        (.table [("stub", .flag true), ("notes", .null)]) :=
      ⟨_, .table (by decide), by simp [Tree.Gives], by simp [Tree.Gives], _, .head _, rfl⟩
    have named : Package.Given.WrittenAs { name := some "dpc" } (.list [.text "dpc"]) :=
      ⟨_, .list (by decide), ⟨_, .head _, rfl⟩, by simp [Tree.Gives, Package.fieldNames],
        by simp [Tree.Gives, Package.fieldNames]⟩
    have written : WrittenAs
        { updaterLaunch := some { updateMaxRetries := some (.whole 5) }
          packages := some [{ stub := some true }, { name := some "dpc" }] }
        (.table [("packages", .list [_, _]), ("updater_launch", _), ("notes", .text "")]) :=
      ⟨_, .table (by decide), by simp [Tree.Gives], ⟨_, .tail _ (.head _), updaterLaunch⟩,
        ⟨_, .head _, _, rfl, .cons stub (.cons named .nil)⟩, by simp [Tree.Gives]⟩
    refine ((read_over_defaults written .refused).1 _).mpr ?_
    exact ⟨⟨rfl, rfl, rfl⟩, ⟨rfl, rfl, rfl⟩,
      .cons ⟨rfl, rfl, rfl⟩ (.cons ⟨rfl, rfl, rfl⟩ .nil), rfl⟩
  · have dryRun : DryRunConfig.Given.WrittenAs { failedUpdates := some (.whole 4294967296) }
        (.list [.whole 4294967296]) :=
      ⟨_, .list (by decide), _, .head _, rfl⟩
    have written : WrittenAs { dryRun := some { failedUpdates := some (.whole 4294967296) } }
        (.table [("dry_run", _)]) :=
      ⟨_, .table (by decide), by simp [Tree.Gives], by simp [Tree.Gives], by simp [Tree.Gives], _,
        .head _, dryRun⟩
    refine Option.not_isSome_iff_eq_none.mp fun isSome => ?_
    obtain ⟨-, inRange⟩ := (read_over_defaults written .refused).2.1.mp isSome
    obtain ⟨value, below, same⟩ := inRange _ rfl
    have : (4294967296 : Int) = value := Number.whole.inj same
    have : value < 4294967296 := below
    omega

end UpdaterLaunch
