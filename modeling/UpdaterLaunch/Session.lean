import UpdaterLaunch.World

/-! A launch session drives one coordinator as a launcher does: it starts a launch, says what to do
next, launches again when the updater reports anything but success, and ends on success or when the
coordinator gives up. It reads the coordinator's events through a subscription of its own.
-/

namespace UpdaterLaunch

/-- A session over the coordinator of a number. -/
structure Session where
  coordinator : Nat
  /-- The session's own subscription at the coordinator. -/
  slot : Nat
  /-- How the session will end the next time it is asked what to do. -/
  queuedFinish : Option Outcome := none
  /-- How the session has ended. -/
  outcome : Option Outcome := none
deriving DecidableEq

namespace Session

/-- What the caller of a session hears when asking what to do next. -/
inductive Next
  | launchUpdater (target : Target)
  | finish (outcome : Outcome)
  /-- The session had ended before. -/
  | finished (outcome : Outcome)
deriving DecidableEq

/-- The text shown to a caller that asks a session that has ended. -/
def finishedMessage (outcome : Outcome) : String :=
  "session already finished with " ++ outcome.name

/-- Opens a session over a coordinator. If the coordinator has emitted events already, the session
reads the latest of them first.
-/
def ofCoordinator (number : Nat) (coordinator : Coordinator) (world : World)
    : Session × World :=
  ({ coordinator := number, slot := coordinator.hub.backlogs.length },
    world.put number { coordinator with hub := coordinator.hub.subscribe })

/-- Starts the first attempt; a restored session has had its own. -/
def start (session : Session) (restored : Bool) (world : World) : World :=
  if restored then world else world.attempt session.coordinator

/-- Stops all retries to come. -/
def stop (session : Session) (world : World) : World := world.stopRetries session.coordinator

/-- Ends the session. -/
def finish (session : Session) (outcome : Outcome) (world : World)
    : Next × Session × World :=
  (.finish outcome, { session with queuedFinish := none, outcome := some outcome },
    session.stop world)

/-- Reads the oldest event that was not read yet. -/
def read? (session : Session) (world : World) : Option (Event × World) := do
  let coordinator ← world.coordinator? session.coordinator
  match coordinator.hub.mail session.slot .tryRecv with
  | (.event (some event), hub) =>
      some (event, world.put session.coordinator { coordinator with hub })
  | _ => none

-----------------------------------------------------------------------------------------
-- What is to be done next, and reports of what was done
-----------------------------------------------------------------------------------------

/-- What is to be done next, if that is known without waiting. -/
def poll? (session : Session) (world : World) : Option (Next × Session × World) :=
  match session.outcome, session.queuedFinish with
  | some outcome, _ => some (.finished outcome, session, world)
  | none, some outcome => some (session.finish outcome world)
  | none, none =>
      (session.read? world).map fun
        | (.launchRequested target, world) => (.launchUpdater target, session, world)
        | (.failed reason, world) =>
            session.finish .cancelled
              (world.note (some session.coordinator) [.givingUp reason])

/-- Takes what the updater reports. Success ends the session the next time it is asked, anything
else makes another attempt; a session that has an end takes no more reports.
-/
def report (session : Session) (verdict : Verdict) (world : World) : Session × World :=
  if session.outcome.isSome ∨ session.queuedFinish.isSome then
    (session, world.note (some session.coordinator) [.verdictIgnored verdict])
  else
    let world := world.note (some session.coordinator) [.verdictReceived verdict]
    match verdict with
    | .ok => ({ session with queuedFinish := some .updated }, world)
    | .canceled | .failed => (session, world.attempt session.coordinator)

/-- Ends the coordinator together with its session. -/
def drop (session : Session) (world : World) : World :=
  match world.live? session.coordinator with
  | none => world
  | some coordinator =>
      let coordinator := coordinator.drop
      world.put session.coordinator
        { coordinator with hub := coordinator.hub.withBacklog session.slot none }

-----------------------------------------------------------------------------------------
-- Waiting for something to do
-----------------------------------------------------------------------------------------

/-- Gives the tasks in line a round of turns, or, if there are none, moves the clock to the next due
time, before a deadline if there is one: for a session that has nothing to do yet.
-/
def wait? (session : Session) (deadline : Option Nat) (world : World) : Option World :=
  if (session.poll? world).isSome then none
  else if world.agenda.ready ≠ [] then some world.round
  else (world.agenda.next?.filter fun due => deadline.all (due < ·)).map world.moveTo

/-- A round, like a step of the clock, brings about less than it takes away. -/
theorem size_wait_lt (session : Session) (deadline : Option Nat) (world after : World)
    (h : session.wait? deadline world = some after)
    : after.size < world.size := by
  unfold wait? at h
  split at h
  · simp at h
  · split at h
    · rename_i line
      obtain rfl := Option.some.inj h
      exact World.size_round_lt line
    · obtain ⟨due, next, rfl⟩ := Option.map_eq_some_iff.mp h
      exact World.size_moveTo_lt (Option.filter_eq_some_iff.mp next).1

/-- Lets time pass until there is something to do, or nothing is due any more before the deadline.
The session looks only between rounds of turns, so what is in line behind an event may run first.
-/
def wait (session : Session) (deadline : Option Nat) (world : World) : World :=
  exhaust (session.wait? deadline) World.size (session.size_wait_lt deadline) world

/-- Asks what to do next, and waits for an answer up to a number of milliseconds. -/
def next (session : Session) (timeout : Nat) (world : World)
    : Option (Next × Session) × World :=
  let deadline := world.agenda.now + timeout
  let world := session.wait (some deadline) world
  match session.poll? world with
  | some (next, session, world) => (some (next, session), world)
  | none => (none, world.moveTo deadline)

end Session

end UpdaterLaunch
