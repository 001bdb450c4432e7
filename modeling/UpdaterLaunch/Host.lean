import UpdaterLaunch.Config
import UpdaterLaunch.Session

/-! A host is a device as a configuration sets it up: its packages, the parts that some of them
play, and launch sessions on one clock. Every session has a scheduler of its own, so stopping one
leaves the retries of the others alone.
-/

namespace UpdaterLaunch

/-- What a configuration sets up, and the sessions made on it. -/
structure Host where
  config : Config
  provider : Provider
  world : World
  /-- The sessions by number; nothing where none came about, or where it was dropped. -/
  sessions : List (Option Session) := []

namespace Host

/-- Sets up what a configuration says, its packages in order. -/
def ofConfig (config : Config) : Host where
  config
  provider := config.roleHolder.provider
  world := config.packages.foldl (fun world package => world.change (.install package)) {}

/-- Suspends some packages. -/
def suspend (host : Host) (names : List String) : Host :=
  { host with
    world := names.foldl (fun world name => world.change (.suspend name true)) host.world }

/-- The session of a number, if there is one. -/
def session? (host : Host) (number : Nat) : Option Session := (host.sessions[number]?).join

/-- Adds a coordinator on a scheduler of its own. -/
def addCoordinator (world : World) (coordinator : Coordinator) : World :=
  let world := world.addTimed
  { world with coordinators := world.coordinators ++ [some coordinator] }

/-- The scheduler that the next coordinator gets. -/
def nextScheduler (host : Host) : Nat := host.world.schedulers.length

/-- The coordinator that launches the updater with the budget of the configuration, after asking
the packages whether it can be launched.
-/
def coordinator (host : Host) (target : Target) : Coordinator where
  budget := host.config.updaterLaunch.budget
  checker := .resolving
  factory := fun _ => target
  scheduler := host.nextScheduler

/-- Opens a session over a new coordinator, after some attempts. -/
def openSession (world : World) (coordinator : Coordinator) (attempts : Nat)
    : Option Session × World :=
  let number := world.coordinators.length
  let world := Nat.repeat (·.attempt number) attempts (addCoordinator world coordinator)
  match world.live? number with
  | some coordinator =>
      let (session, world) := Session.ofCoordinator number coordinator world
      (some session, world)
  | none => (none, world)

/-- Makes a session that launches the updater, unless the updater is not to be started. -/
def wire (host : Host) : Option Session × World :=
  let delegation := host.config.roleHolder.deferProvisioning
  let check := host.provider.startCheck delegation host.world.registry.device
  let world := host.world.note none check.notices
  match check.start, host.provider.updaterTarget with
  | true, .ok target =>
      openSession (world.note (some world.coordinators.length) [.sessionWired])
        (host.coordinator target) 0
  | _, _ => (none, world)

end Host

end UpdaterLaunch
