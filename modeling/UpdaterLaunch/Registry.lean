import UpdaterLaunch.Device
import UpdaterLaunch.Notice
import UpdaterLaunch.Package

/-! The packages installed on a device, held in memory. Every package is visible to every user. A
suspended package stays installed but resolves nothing, as a package does while it is updated.
-/

namespace UpdaterLaunch

/-- An installed package. -/
structure Installed where
  handledActions : List String
  stub : Bool
  suspended : Bool := false
deriving DecidableEq

/-- Whether the package would start a component for an action. -/
def Installed.resolves (package : Installed) (action : String) : Bool :=
  !package.suspended && package.handledActions.contains action

/-- The installed packages by name. -/
structure Registry where
  packages : List (String × Installed) := []
deriving DecidableEq, Inhabited

namespace Registry

/-- The package of a name, if it is installed. -/
def get? (registry : Registry) (name : String) : Option Installed :=
  registry.packages.lookup name

/-- The registry without the package of a name. -/
def erase (registry : Registry) (name : String) : Registry :=
  ⟨registry.packages.filter (·.1 != name)⟩

/-- The registry with a package under a name, in place of the one that was there. -/
def put (registry : Registry) (name : String) (package : Installed) : Registry :=
  ⟨(name, package) :: (registry.erase name).packages⟩

/-- A change of what is installed. -/
inductive Change
  | install (package : Package)
  | uninstall (name : String)
  | suspend (name : String) (suspended : Bool)
deriving DecidableEq

/-- Installs a package, not suspended, in place of one of the same name. -/
def install (registry : Registry) (package : Package) : Registry :=
  registry.put package.name { handledActions := package.handledActions, stub := package.stub }

/-- Suspends a package or wakes it up again; a package that is not installed stays that way. -/
def suspend (registry : Registry) (name : String) (suspended : Bool) : Registry :=
  match registry.get? name with
  | some package => registry.put name { package with suspended }
  | none => registry

/-- The registry after a change. -/
def apply (registry : Registry) : Change → Registry
  | .install package => registry.install package
  | .uninstall name => registry.erase name
  | .suspend name suspended => registry.suspend name suspended

/-- Whether a change finds the package that it is about. -/
def finds (registry : Registry) : Change → Bool
  | .install _ => true
  | .uninstall name | .suspend name _ => (registry.get? name).isSome

/-- What a change puts into the log. -/
def report (registry : Registry) : Change → List Notice
  | .install package => [.packageInstalled package.name]
  | .uninstall _ => []
  | .suspend name suspended =>
      if (registry.get? name).isSome then [.suspensionChanged name suspended] else []

/-- The registry with the given packages installed in order. -/
def ofPackages (packages : List Package) : Registry :=
  packages.foldl install {}

/-- Whether a package of a name is installed. -/
def isInstalled (registry : Registry) (name : String) : Bool :=
  (registry.get? name).isSome

/-- Whether a package of a name is installed and a stub. -/
def isStub (registry : Registry) (name : String) : Bool :=
  (registry.get? name).any (·.stub)

/-- Whether some package starts a target; only one package is asked if the target is pinned. The
user makes no difference, nor do the extras.
-/
def resolves (registry : Registry) (target : Target) : Bool :=
  match target.package with
  | some name => (registry.get? name).any (·.resolves target.action)
  | none => registry.packages.any (·.2.resolves target.action)

/-- A registry answers all questions to a device. -/
def device (registry : Registry) : Device where
  isInstalled := registry.isInstalled
  isStub := registry.isStub
  resolves target _ := registry.resolves target

/-- What a registry puts into the log when it is asked: only resolving is worth a line. -/
def heard (registry : Registry) (queries : List Query) : List Notice :=
  queries.filterMap fun
    | .resolves target user => some (.targetResolved target user (registry.resolves target))
    | _ => none

end Registry

end UpdaterLaunch
