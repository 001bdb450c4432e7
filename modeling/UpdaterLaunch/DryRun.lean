import UpdaterLaunch.Host

/-! A dry run plays a whole session on a host. A simulated updater answers every launch: it fails as
often as the configuration says, and succeeds from then on.
-/

namespace UpdaterLaunch.DryRun

/-- What a dry run has come to. -/
structure Report where
  /-- How the session ended, or nothing if the updater was not to be started. -/
  outcome : Option Outcome
  /-- How often the updater was launched. -/
  launches : UInt32
  /-- The milliseconds that the run took. -/
  elapsed : Nat
deriving DecidableEq

/-- What a player of sessions has before it. -/
structure Stage where
  world : World
  /-- How many more events the player reads before it lets others have a turn. -/
  patience : Nat

/-- How many events a player reads at a stretch. -/
def stretch : Nat := 128

/-- A session at its end: how it ended, and after how many launches. -/
structure Ending where
  outcome : Outcome
  launches : UInt32
  stage : Stage

/-- What a player does before it reads an event. At the end of a stretch the tasks in line get a
round of turns, and after it, as after a wait for something to do, a new stretch begins.
-/
def attend (session : Session) (stage : Stage) : Stage :=
  let stage :=
    if stage.patience = 0 then { world := stage.world.round, patience := stretch } else stage
  if (session.poll? stage.world).isSome then stage
  else { world := session.wait none stage.world, patience := stretch }

/-- The end of a run, if there is nothing more to do: everything is stopped once more. -/
def conclude? (session : Session) (launches : UInt32) (stage : Stage) : Option Ending :=
  match session.poll? stage.world with
  | some (.finish outcome, session, world) =>
      some { outcome, launches, stage := { stage with world := session.stop world } }
  | _ => none

/-- Plays a session up to its end, with a number of failures of the updater still to come. There
is no end if the session would wait for ever.
-/
def play? (failures : Nat) (session : Session) (launches : UInt32) (stage : Stage)
    : Option Ending :=
  let stage := attend session stage
  let patience := stage.patience - 1
  match session.poll? stage.world with
  | some (.launchUpdater target, session, world) =>
      let launches := launches + 1
      let world := world.note (some session.coordinator) [.updaterLaunching target launches]
      match failures with
      | failures + 1 =>
          let (session, world) := session.report .failed world
          play? failures session launches { world, patience }
      | 0 =>
          let (session, world) := session.report .ok world
          conclude? session launches { world, patience }
  | _ => conclude? session launches { stage with patience }

/-- Runs a session on a host; the host is the same after it but for what the world has seen, and the
patience that is left comes with it.
-/
def run? (host : Host) (patience : Nat := stretch) : Option (Report × Nat × Host) :=
  let started := host.world.agenda.now
  match host.wire with
  | (none, world) =>
      some ({ outcome := none, launches := 0, elapsed := 0 }, patience, { host with world })
  | (some session, world) => do
      let { outcome, launches, stage } ←
        play? host.config.dryRun.failedUpdates.toNat session 0
          { world := session.start false world, patience }
      let elapsed := stage.world.agenda.now - started
      return ({ outcome := some outcome, launches, elapsed }, stage.patience,
        { host with world := stage.world })

/-- Posts changes of the packages, each at its own time from now. -/
def schedule (host : Host) (changes : List (Nat × Registry.Change)) : Host :=
  let queue := host.nextScheduler
  let post (agenda : Agenda Task) (change : Nat × Registry.Change) :=
    agenda.post queue change.1 (.change change.2)
  let world := host.world.addTimed
  { host with world := { world with agenda := changes.foldl post world.agenda } }

/-- Runs a number of sessions on a host, one after the other, at one stretch as far as possible. -/
def runAll? (count : Nat) (host : Host) (patience : Nat := stretch)
    : Option (List Report × Host) :=
  match count with
  | 0 => some ([], host)
  | count + 1 => do
      let (report, patience, host) ← run? host patience
      let (reports, host) ← runAll? count host patience
      return (report :: reports, host)

/-- The text shown where a dry run is asked for and nothing can run timers. -/
def noClockMessage : String := "Scheduler needs a running tokio runtime"

end UpdaterLaunch.DryRun
