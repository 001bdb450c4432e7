import UpdaterLaunch.World

/-! What can be asked of a world. A request is handled at once; a step handles a request and then
lets everything run that is due by then.
-/

namespace UpdaterLaunch.World

/-- What can be asked of a coordinator. -/
inductive Command
  | tryLaunch
  | stop
  | drop
  | subscribe
  /-- From now on the prepared answer is always this one. -/
  | setLaunchable (value : Bool)
deriving DecidableEq

/-- Everything that can be asked of a world. -/
inductive Request
  | command (coordinator : Nat) (command : Command)
  /-- Runs everything that a manual scheduler keeps now. -/
  | fire (scheduler : Nat)
  /-- Runs one of the retries that a manual scheduler keeps. -/
  | fireAt (scheduler index : Nat)
  | cancel (scheduler : Nat)
  | advance (ms : Nat)
  | change (change : Registry.Change)
  | mail (subscription : Nat) (request : Hub.Mail)
deriving DecidableEq

/-- Makes a subscription to a coordinator. -/
def subscribe (world : World) (number : Nat) (coordinator : Coordinator) : World :=
  { world.put number { coordinator with hub := coordinator.hub.subscribe } with
    subscriptions := world.subscriptions ++ [(number, coordinator.hub.backlogs.length)] }

/-- Handles what is asked of a coordinator that can still be used. -/
def obey (world : World) (number : Nat) (coordinator : Coordinator)
    : Command → Answer × World
  | .tryLaunch => (.done, world.attempt number)
  | .stop => (.done, world.stopRetries number)
  | .drop => (.done, world.put number coordinator.drop)
  | .subscribe =>
      (.number world.subscriptions.length, world.subscribe number coordinator)
  | .setLaunchable value =>
      match coordinator.checker with
      | .scripted _ asked =>
          (.done, world.put number
            { coordinator with checker := .scripted (fun _ => value) asked })
      | .resolving => (.refused .noScript, world)

/-- Fires all retries that a manual scheduler keeps; what they post stays for the next time. -/
def fire (world : World) (scheduler : Nat) (queue : List (Span × Nat)) : World :=
  queue.foldl (fun world retry => world.attempt retry.2)
    { world with schedulers := world.schedulers.set scheduler (.manual []) }

/-- Fires one of the retries that a manual scheduler keeps, and says how many that was. -/
def fireAt (world : World) (scheduler : Nat) (queue : List (Span × Nat)) (index : Nat)
    : Answer × World :=
  match queue[index]? with
  | some (_, number) =>
      (.number 1,
        { world with
          schedulers := world.schedulers.set scheduler (.manual (queue.eraseIdx index)) }.attempt
          number)
  | none => (.number 0, world)

/-- Handles a subscriber's request; the backlog is there also after the coordinator was dropped. -/
def mail (world : World) (subscription : Nat) (request : Hub.Mail) : Answer × World :=
  match world.subscriptions[subscription]? with
  | none => (.refused .noSubscriber, world)
  | some (number, slot) =>
      match world.coordinator? number with
      | none => (.refused .noSubscriber, world)
      | some coordinator =>
          let (answer, hub) := coordinator.hub.mail slot request
          (answer, world.put number { coordinator with hub })

/-- Handles a request. -/
def handle (world : World) : Request → Answer × World
  | .command number command =>
      match world.live? number with
      | some coordinator => world.obey number coordinator command
      | none => (.refused .noCoordinator, world)
  | .fire scheduler =>
      match world.schedulers[scheduler]? with
      | some (.manual queue) => (.number queue.length, world.fire scheduler queue)
      | _ => (.refused .noScheduler, world)
  | .fireAt scheduler index =>
      match world.schedulers[scheduler]? with
      | some (.manual queue) => world.fireAt scheduler queue index
      | _ => (.refused .noScheduler, world)
  | .cancel scheduler =>
      if scheduler < world.schedulers.length then (.done, world.cancel scheduler none)
      else (.refused .noScheduler, world)
  | .advance ms => (.done, world.advance ms)
  | .change (.install package) => (.done, world.change (.install package))
  | .change change => (.flag (world.registry.finds change), world.change change)
  | .mail subscription request => world.mail subscription request

/-- Handles a request and lets everything run that is due by then. -/
def step (world : World) (request : Request) : Answer × World :=
  let (answer, world) := world.handle request
  (answer, world.settle)

/-- What a scheduler still has to run. -/
inductive Pending
  | delays (delays : List Span)
  | nothing
  | count (count : Nat)

/-- What each scheduler still has to run, in the way in which it keeps it. -/
def pending (world : World) : List Pending :=
  world.schedulers.mapIdx fun number scheduler =>
    match scheduler with
    | .manual queue => .delays (queue.map (·.1))
    | .inline => .nothing
    | .timed => .count (world.agenda.pending number)

end UpdaterLaunch.World
