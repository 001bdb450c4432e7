import UpdaterLaunch.Action
import UpdaterLaunch.Device
import UpdaterLaunch.Notice
import UpdaterLaunch.Text.Quoted

/-! Handing provisioning over to the role holder: whether its updater has to be started first,
whether it is ready, and the targets for both.
-/

namespace UpdaterLaunch

/-- A name that is empty counts as missing. -/
def nonEmpty? (name : Option String) : Option String := name.filter (· ≠ "")

/-- Why there is no target, or no role holder to speak of. -/
inductive DelegationError
  | emptyPackageName
  | missingUpdaterPackage
  | unsupportedProvisioningAction (action : String)
deriving DecidableEq

/-- The text shown for an error. -/
def DelegationError.message : DelegationError → String
  | .emptyPackageName => "role holder package name is empty"
  | .missingUpdaterPackage => "role holder updater package name is null or empty"
  | .unsupportedProvisioningAction action =>
      "provisioning action " ++ Text.quote action ++ " cannot be delegated to the role holder"

-----------------------------------------------------------------------------------------
-- The updater
-----------------------------------------------------------------------------------------

/-- The packages that a configuration names; an empty name counts as none. -/
structure Provider where
  roleHolder : Option String := none
  updater : Option String := none
deriving DecidableEq, Inhabited

namespace Provider

/-- The provider of two configured names. -/
def ofNames (roleHolder updater : Option String) : Provider where
  roleHolder := nonEmpty? roleHolder
  updater := nonEmpty? updater

/-- The target that starts the updater. -/
def updaterTarget (provider : Provider) : Except DelegationError Target :=
  match nonEmpty? provider.updater with
  | some package => .ok (Target.withPackage { action := Action.updateRoleHolder } package)
  | none => .error .missingUpdaterPackage

end Provider

/-- The answer to whether the updater is to be started, with the questions it took. -/
structure StartCheck where
  start : Bool
  queries : List Query := []
  cause : Option NotStarted := none

/-- The updater is started if delegation is on, both packages are named and the updater is
installed. The device is asked only for the last of these, and a plain no of it has no cause worth
saying.
-/
def Provider.startCheck (provider : Provider) (delegation : Bool) (device : Device)
    : StartCheck :=
  if delegation then
    match nonEmpty? provider.roleHolder, nonEmpty? provider.updater with
    | none, _ => { start := false, cause := some .noRoleHolder }
    | some _, none => { start := false, cause := some .noUpdater }
    | some _, some updater =>
        { start := device.isInstalled updater, queries := [.isInstalled updater] }
  else { start := false, cause := some .delegationOff }

/-- What a start check puts into the log. -/
def StartCheck.notices (check : StartCheck) : List Notice :=
  (check.cause.map Notice.updaterNotStarted).toList

-----------------------------------------------------------------------------------------
-- The role holder
-----------------------------------------------------------------------------------------

/-- A role holder, for one user of the device. -/
structure RoleHolder where
  package : String
  nonempty : package ≠ ""
  delegation : Bool
  user : User

namespace RoleHolder

/-- The role holder of a name; there is none without a name. -/
def ofName (package : String) (delegation : Bool) (user : User)
    : Except DelegationError RoleHolder :=
  if h : package = "" then .error .emptyPackageName
  else .ok ⟨package, h, delegation, user⟩

/-- The target of an action in the role holder's package. -/
def target (holder : RoleHolder) (action : String) : Target :=
  Target.withPackage { action } holder.package

/-- The answer to whether the role holder can take over, with the questions it took. -/
structure Readiness where
  queries : List Query := []
  cause : Option NotReady := none

/-- The role holder can take over if nothing speaks against it. -/
def Readiness.ready (readiness : Readiness) : Bool := readiness.cause.isNone

/-- What a readiness check itself puts into the log. -/
def Readiness.notices (readiness : Readiness) : List Notice :=
  (readiness.cause.map Notice.roleHolderNotReady).toList

/-- The questions whether the role holder handles what it has to. -/
def actionQueries (holder : RoleHolder) : List Query :=
  Action.requiredOfRoleHolder.map fun action => .resolves (holder.target action) holder.user

/-- The role holder can take over if delegation is on, the provisioning action is one it answers,
and it is installed, no stub, and handles all that is required. The device is asked no further
than needed.
-/
def readiness (holder : RoleHolder) (device : Device) (provisioning : Target) : Readiness :=
  if !holder.delegation then { cause := some .delegationOff }
  else if (Action.delegated? provisioning.action).isNone then
    { cause := some (.unsupportedAction provisioning.action) }
  else if !device.isInstalled holder.package then
    { queries := [.isInstalled holder.package], cause := some (.notInstalled holder.package) }
  else if device.isStub holder.package then
    { queries := [.isInstalled holder.package, .isStub holder.package],
      cause := some (.stub holder.package) }
  else
    let (asked, all) := device.askAll holder.actionQueries
    { queries := .isInstalled holder.package :: .isStub holder.package :: asked,
      cause := if all then none else some (.actionsMissing holder.package) }

/-- The role holder's target for a provisioning target: its own action in its own package, with
the extras passed on.
-/
def provisioningTarget (holder : RoleHolder) (provisioning : Target)
    : Except DelegationError Target :=
  match Action.delegated? provisioning.action with
  | some action => .ok ((holder.target action).withExtras provisioning.extras)
  | none => .error (.unsupportedProvisioningAction provisioning.action)

/-- The target that ends a provisioning. -/
def finalizationTarget (holder : RoleHolder) : Target :=
  holder.target Action.roleHolderFinalization

end RoleHolder

end UpdaterLaunch
