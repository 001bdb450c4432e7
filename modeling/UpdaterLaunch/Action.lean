/-! The actions that targets are made of: those a setup flow starts provisioning with, those the
role holder answers instead, and the one that starts its updater.
-/

namespace UpdaterLaunch.Action

/-- What every action here starts with. -/
def family : String := "android.app.action."

/-- Starts the updater of the device management role holder. -/
def updateRoleHolder : String := family ++ "UPDATE_DEVICE_MANAGEMENT_ROLE_HOLDER"

/-- Provisions a managed profile. -/
def managedProfile : String := family ++ "PROVISION_MANAGED_PROFILE"

/-- Provisions a managed device from a trusted source. -/
def trustedSource : String := family ++ "PROVISION_MANAGED_DEVICE_FROM_TRUSTED_SOURCE"

/-- Provisions a financed device. -/
def financedDevice : String := family ++ "PROVISION_FINANCED_DEVICE"

/-- Ends a provisioning. -/
def finalization : String := family ++ "PROVISION_FINALIZATION"

/-- The role holder's answer to `managedProfile`. -/
def roleHolderManagedProfile : String := family ++ "ROLE_HOLDER_PROVISION_MANAGED_PROFILE"

/-- The role holder's answer to `trustedSource`. -/
def roleHolderTrustedSource : String :=
  family ++ "ROLE_HOLDER_PROVISION_MANAGED_DEVICE_FROM_TRUSTED_SOURCE"

/-- The role holder's way to end a provisioning. -/
def roleHolderFinalization : String := family ++ "ROLE_HOLDER_PROVISION_FINALIZATION"

/-- What a role holder has to handle, all of it, in the order in which it is asked. -/
def requiredOfRoleHolder : List String :=
  [roleHolderManagedProfile, roleHolderTrustedSource, roleHolderFinalization]

/-- The role holder's action for a provisioning action. Financed devices and the end of a
provisioning are not handed over on this way.
-/
def delegated? (action : String) : Option String :=
  if action = managedProfile then some roleHolderManagedProfile
  else if action = trustedSource then some roleHolderTrustedSource
  else none

end UpdaterLaunch.Action
