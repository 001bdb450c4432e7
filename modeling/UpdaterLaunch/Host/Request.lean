import UpdaterLaunch.Host
import UpdaterLaunch.World.Request

/-! What can be asked of a host and its sessions, by number.
-/

namespace UpdaterLaunch.Host

/-- What can be asked of a session. -/
inductive Command
  | start (restored : Bool)
  | report (verdict : Verdict)
  | stop
  | tryLaunch
  | drop
  | subscribe
  | next (timeout : Nat)
deriving DecidableEq

/-- Everything that can be asked of a host. -/
inductive Request
  | session (number : Nat) (command : Command)
  | wire
  /-- Makes a session over a coordinator put together from parts, which makes some attempts first.
  The only scheduler that it may be given is a new one of its own, number 0.
  -/
  | wrap (parts : Except DelegationError Coordinator.Parts) (attempts : Nat)
  /-- Whatever else can be asked of the world around the sessions. -/
  | world (request : World.Request)

/-- What comes back from a request. -/
inductive Reply
  | answer (answer : Answer)
  | next (next : Session.Next)
  | timeout
  /-- Whether a session came about. -/
  | wired (value : Bool)
  | noTarget (error : DelegationError)
  | missing (missing : Missing)

/-- The host after a session has done something. -/
def update (host : Host) (number : Nat) (session : Option Session) (world : World) : Host :=
  { host with world, sessions := host.sessions.set number session }

/-- Handles what is asked of a session. -/
def obey (host : Host) (number : Nat) (session : Session) : Command → Reply × Host
  | .start restored =>
      (.answer .done, { host with world := session.start restored host.world })
  | .report verdict =>
      let (session, world) := session.report verdict host.world
      (.answer .done, host.update number session world)
  | .stop => (.answer .done, { host with world := session.stop host.world })
  | .tryLaunch =>
      (.answer .done, { host with world := host.world.attempt session.coordinator })
  | .drop => (.answer .done, host.update number none (session.drop host.world))
  | .subscribe =>
      let (answer, world) := host.world.handle (.command session.coordinator .subscribe)
      (.answer answer, { host with world })
  | .next timeout =>
      match session.next timeout host.world with
      | (some (next, session), world) => (.next next, host.update number session world)
      | (none, world) => (.timeout, { host with world })

/-- The host with one more session, or with a number that no session has. -/
def add (host : Host) (session : Option Session) (world : World) : Host :=
  { host with world, sessions := host.sessions ++ [session] }

/-- Handles a request. -/
def handle (host : Host) : Request → Reply × Host
  | .session number command =>
      match host.session? number with
      | some session => host.obey number session command
      | none => (.answer (.refused .noSession), host)
  | .wire =>
      let (session, world) := host.wire
      (.wired session.isSome, host.add session world)
  | .wrap (.error error) _ => (.noTarget error, host.add none host.world)
  | .wrap (.ok parts) attempts =>
      let own := (parts.scheduler.filter (· = 0)).map fun _ => host.nextScheduler
      match Coordinator.build { parts with scheduler := own } with
      | .error missing => (.missing missing, host.add none host.world)
      | .ok coordinator =>
          let (session, world) := openSession host.world coordinator attempts
          (.wired session.isSome, host.add session world)
  | .world request =>
      let (answer, world) := host.world.handle request
      (.answer answer, { host with world })

/-- Handles a request and lets everything run that is due by then. -/
def step (host : Host) (request : Request) : Reply × Host :=
  let (reply, host) := host.handle request
  (reply, { host with world := host.world.settle })

/-- Wires a number of sessions; whether each came about. -/
def wireAll (host : Host) : Nat → List Reply × Host
  | 0 => ([], host)
  | count + 1 =>
      let (reply, host) := host.handle .wire
      let (replies, host) := host.wireAll count
      (reply :: replies, host)

/-- What a session shows: what its coordinator has spent, and how it ended. -/
def view (host : Host) (session : Session) : Option (Counters × Option Outcome) :=
  (host.world.coordinator? session.coordinator).map fun coordinator =>
    (coordinator.counters, session.outcome)

end UpdaterLaunch.Host
