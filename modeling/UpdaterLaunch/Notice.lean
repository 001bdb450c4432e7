import UpdaterLaunch.Event
import UpdaterLaunch.Ident
import UpdaterLaunch.Outcome

/-! What is worth a line in the log. A notice is kept as the fact that it reports; its level, its
text and its fields are read off it.
-/

namespace UpdaterLaunch

/-- How much a line of the log matters, least first. -/
inductive Level
  | trace
  | debug
  | info
  | warn
  | error
deriving DecidableEq

/-- The name of a level. -/
def Level.name : Level → String
  | .trace => "TRACE"
  | .debug => "DEBUG"
  | .info => "INFO"
  | .warn => "WARN"
  | .error => "ERROR"

/-- The value of a field of a notice. -/
inductive Field
  | text (value : String)
  | number (value : Nat)
  | flag (value : Bool)
deriving DecidableEq

/-- Why the updater is not started, where it is worth saying. -/
inductive NotStarted
  | delegationOff
  | noRoleHolder
  | noUpdater
deriving DecidableEq

/-- Why the role holder does not take over a provisioning. -/
inductive NotReady
  | delegationOff
  | unsupportedAction (action : String)
  | notInstalled (package : String)
  | stub (package : String)
  | actionsMissing (package : String)
deriving DecidableEq

/-- A fact for the log. -/
inductive Notice
  | packageInstalled (package : String)
  | suspensionChanged (package : String) (suspended : Bool)
  | targetResolved (target : Target) (user : User) (resolved : Bool)
  | updaterNotStarted (cause : NotStarted)
  | roleHolderNotReady (cause : NotReady)
  | launchRequested (target : Target)
  | launchPutOff (target : Target)
  | launchFailed (reason : Failure)
  | eventEmitted (event : Event) (observers : Nat)
  | stoppingRetries
  | retryScheduled (task : Nat)
  | retriesCancelled (count : Nat)
  | sessionWired
  | givingUp (reason : Failure)
  | verdictReceived (verdict : Verdict)
  | verdictIgnored (verdict : Verdict)
  | updaterLaunching (target : Target) (launches : UInt32)
deriving DecidableEq

namespace Notice

/-- The level of a notice. -/
def level : Notice → Level
  | packageInstalled _ | suspensionChanged _ _ | targetResolved _ _ _ | launchRequested _
  | eventEmitted _ _ | stoppingRetries | retryScheduled _ | retriesCancelled _ => .debug
  | updaterNotStarted _ | roleHolderNotReady _ | sessionWired | verdictReceived _
  | updaterLaunching _ _ => .info
  | launchPutOff _ | givingUp _ | verdictIgnored _ => .warn
  | launchFailed _ => .error

/-- The text of a notice. -/
def text : Notice → String
  | packageInstalled _ => "package installed"
  | suspensionChanged _ _ => "package suspension changed"
  | targetResolved _ _ _ => "resolving launch target"
  | updaterNotStarted .delegationOff =>
      "Not starting role holder updater, because delegation is turned off"
  | updaterNotStarted .noRoleHolder =>
      "Not starting role holder updater, because the role holder package name is empty"
  | updaterNotStarted .noUpdater =>
      "Not starting role holder updater, because the updater package name is empty"
  | roleHolderNotReady .delegationOff =>
      "Not delegating to role holder, because delegation is turned off"
  | roleHolderNotReady (.unsupportedAction _) =>
      "Not delegating to role holder, because the provisioning action is not supported"
  | roleHolderNotReady (.notInstalled _) => "Role holder is not installed"
  | roleHolderNotReady (.stub _) => "Role holder is a stub"
  | roleHolderNotReady (.actionsMissing _) =>
      "Role holder does not handle all required actions"
  | launchRequested _ => "requesting role holder updater launch"
  | launchPutOff _ => "Cannot launch role holder updater, retry scheduled"
  | launchFailed _ => "Role holder updater launch failed"
  | eventEmitted _ _ => "coordinator event emitted"
  | stoppingRetries => "stopping launch retries"
  | retryScheduled _ => "retry scheduled"
  | retriesCancelled _ => "scheduled retries cancelled"
  | sessionWired => "Role holder updater launch session wired"
  | givingUp _ => "Giving up on role holder updater"
  | verdictReceived _ => "Device management role holder updater result"
  | verdictIgnored _ => "Ignoring updater result for a finished session"
  | updaterLaunching _ _ => "Launching role holder updater"

/-- The fields of a notice. -/
def fields : Notice → List (String × Field)
  | packageInstalled package => [("package", .text package)]
  | suspensionChanged package suspended =>
      [("package", .text package), ("suspended", .flag suspended)]
  | targetResolved target user resolved =>
      [("target", .text target.display), ("user", .text user.display), ("resolved", .flag resolved)]
  | updaterNotStarted _ | roleHolderNotReady .delegationOff => []
  | roleHolderNotReady (.unsupportedAction action) => [("action", .text action)]
  | roleHolderNotReady (.notInstalled package)
  | roleHolderNotReady (.stub package)
  | roleHolderNotReady (.actionsMissing package) => [("package", .text package)]
  | launchRequested target | launchPutOff target => [("target", .text target.display)]
  | launchFailed reason | givingUp reason => [("reason", .text reason.text)]
  | eventEmitted _ observers => [("observers", .number observers)]
  | retryScheduled task => [("task_id", .number task)]
  | retriesCancelled count => [("cancelled", .number count)]
  | stoppingRetries | sessionWired => []
  | verdictReceived verdict | verdictIgnored verdict => [("result", .text verdict.name)]
  | updaterLaunching target launches =>
      [("target", .text target.display), ("launches", .number launches.toNat)]

end Notice

end UpdaterLaunch
