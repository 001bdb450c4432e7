import UpdaterLaunch.Budget
import UpdaterLaunch.Delegation
import UpdaterLaunch.Package
import UpdaterLaunch.Tree

/-! The configuration: its sections, their defaults, and their written form. Every field may be
left out, and then has its default, whatever the other fields of its section are.
-/

namespace UpdaterLaunch

/-- Which packages play which part, and whether provisioning is handed over at all. -/
structure RoleHolderConfig where
  packageName : Option String := none
  updaterPackageName : Option String := none
  deferProvisioning : Bool := false
deriving DecidableEq, Inhabited

/-- The retry budgets for launching the updater. -/
structure UpdaterLaunchConfig where
  launchRetryDelayMs : UInt64 := 60000
  launchMaxRetries : UInt32 := 3
  updateMaxRetries : UInt32 := 3
deriving DecidableEq, Inhabited

/-- How a dry run goes. -/
structure DryRunConfig where
  /-- How many launches of the updater fail before one succeeds. -/
  failedUpdates : UInt32 := 0
deriving DecidableEq, Inhabited

/-- A whole configuration. -/
structure Config where
  roleHolder : RoleHolderConfig := {}
  updaterLaunch : UpdaterLaunchConfig := {}
  packages : List Package := []
  dryRun : DryRunConfig := {}
deriving DecidableEq, Inhabited

namespace RoleHolderConfig

/-- The names of the fields, in order. -/
def fieldNames : List String :=
  ["package_name", "updater_package_name", "defer_provisioning_to_role_holder"]

/-- Reads a section. -/
def ofTree? (surplus : Tree.Surplus) (tree : Tree) : Option RoleHolderConfig := do
  let [package, updater, defer] ← tree.fields? surplus fieldNames | none
  return {
    packageName := ← Tree.optional? Tree.text? package
    updaterPackageName := ← Tree.optional? Tree.text? updater
    deferProvisioning := ← Tree.orDefault? Tree.flag? false defer }

/-- Writes an optional text. -/
def optionalText : Option String → Tree
  | some value => .text value
  | none => .null

/-- Writes a section. -/
def toTree (config : RoleHolderConfig) : Tree :=
  .table [("package_name", optionalText config.packageName),
    ("updater_package_name", optionalText config.updaterPackageName),
    ("defer_provisioning_to_role_holder", .flag config.deferProvisioning)]

/-- The packages that the section names. -/
def provider (config : RoleHolderConfig) : Provider :=
  .ofNames config.packageName config.updaterPackageName

end RoleHolderConfig

namespace UpdaterLaunchConfig

/-- The names of the fields, in order. -/
def fieldNames : List String :=
  ["launch_retry_delay_ms", "launch_max_retries", "update_max_retries"]

/-- Reads a section. -/
def ofTree? (surplus : Tree.Surplus) (tree : Tree) : Option UpdaterLaunchConfig := do
  let [delay, launches, updates] ← tree.fields? surplus fieldNames | none
  let default : UpdaterLaunchConfig := {}
  return {
    launchRetryDelayMs := ← Tree.orDefault? Tree.uint64? default.launchRetryDelayMs delay
    launchMaxRetries := ← Tree.orDefault? Tree.uint32? default.launchMaxRetries launches
    updateMaxRetries := ← Tree.orDefault? Tree.uint32? default.updateMaxRetries updates }

/-- Writes a section. -/
def toTree (config : UpdaterLaunchConfig) : Tree :=
  .table [("launch_retry_delay_ms", .whole config.launchRetryDelayMs.toNat),
    ("launch_max_retries", .whole config.launchMaxRetries.toNat),
    ("update_max_retries", .whole config.updateMaxRetries.toNat)]

/-- The budget that the section sets. -/
def budget (config : UpdaterLaunchConfig) : Budget :=
  .ofMillis config.launchMaxRetries config.updateMaxRetries config.launchRetryDelayMs

end UpdaterLaunchConfig

namespace Package

/-- The names of the fields, in order. -/
def fieldNames : List String := ["name", "handled_actions", "stub"]

/-- Reads a package. -/
def ofTree? (surplus : Tree.Surplus) (tree : Tree) : Option Package := do
  let [name, actions, stub] ← tree.fields? surplus fieldNames | none
  return {
    name := ← Tree.orDefault? Tree.text? "" name
    handledActions := ← Tree.orDefault? (Tree.listOf? Tree.text?) [] actions
    stub := ← Tree.orDefault? Tree.flag? false stub }

/-- Writes a package. -/
def toTree (package : Package) : Tree :=
  .table [("name", .text package.name),
    ("handled_actions", .list (package.handledActions.map .text)),
    ("stub", .flag package.stub)]

end Package

namespace DryRunConfig

/-- The names of the fields, in order. -/
def fieldNames : List String := ["failed_updates"]

/-- Reads a section. -/
def ofTree? (surplus : Tree.Surplus) (tree : Tree) : Option DryRunConfig := do
  let [failed] ← tree.fields? surplus fieldNames | none
  return { failedUpdates := ← Tree.orDefault? Tree.uint32? 0 failed }

/-- Writes a section. -/
def toTree (config : DryRunConfig) : Tree :=
  .table [("failed_updates", .whole config.failedUpdates.toNat)]

end DryRunConfig

namespace Config

/-- The names of the sections, in order. -/
def fieldNames : List String := ["role_holder", "updater_launch", "packages", "dry_run"]

/-- Reads a configuration. -/
def ofTree? (surplus : Tree.Surplus) (tree : Tree) : Option Config := do
  let [roleHolder, updaterLaunch, packages, dryRun] ← tree.fields? surplus fieldNames | none
  return {
    roleHolder := ← Tree.orDefault? (RoleHolderConfig.ofTree? surplus) {} roleHolder
    updaterLaunch := ← Tree.orDefault? (UpdaterLaunchConfig.ofTree? surplus) {} updaterLaunch
    packages := ← Tree.orDefault? (Tree.listOf? (Package.ofTree? surplus)) [] packages
    dryRun := ← Tree.orDefault? (DryRunConfig.ofTree? surplus) {} dryRun }

/-- Writes a configuration. -/
def toTree (config : Config) : Tree :=
  .table [("role_holder", config.roleHolder.toTree),
    ("updater_launch", config.updaterLaunch.toTree),
    ("packages", .list (config.packages.map Package.toTree)),
    ("dry_run", config.dryRun.toTree)]

end Config

end UpdaterLaunch
