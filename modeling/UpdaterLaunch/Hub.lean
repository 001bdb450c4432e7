import UpdaterLaunch.Answer
import UpdaterLaunch.Notice

/-! The hub fans every event out to all subscriptions, in the order of emission. By the time an
emission is over the event is in the backlog of every live subscription. A new subscription starts
with the latest event. The hub hears of a subscription's end only when it next sends to it, so
until the next emission it may list subscriptions that are gone.
-/

namespace UpdaterLaunch

/-- A hub with its subscriptions, which are numbered from 0 as they come. -/
structure Hub where
  /-- Whether events may still be emitted. -/
  isOpen : Bool := true
  latest : Option Event := none
  /-- The subscriptions that the hub sends to, in the order in which they came. -/
  observers : List Nat := []
  /-- Every subscription's backlog, oldest event first, or nothing once it has ended. -/
  backlogs : List (Option (List Event)) := []
deriving DecidableEq, Inhabited

namespace Hub

/-- The backlog of a subscription, if it is live. -/
def backlog? (hub : Hub) (slot : Nat) : Option (List Event) := (hub.backlogs[slot]?).join

/-- Whether a subscription was made and has not ended. -/
def isLive (hub : Hub) (slot : Nat) : Bool := (hub.backlog? slot).isSome

/-- Adds a subscription, its backlog holding the latest event if there is one. -/
def subscribe (hub : Hub) : Hub :=
  { hub with
    observers := hub.observers ++ [hub.backlogs.length]
    backlogs := hub.backlogs ++ [some hub.latest.toList] }

/-- Appends an event to one backlog. -/
def deliver (event : Event) (backlogs : List (Option (List Event))) (slot : Nat)
    : List (Option (List Event)) :=
  backlogs.modify slot (·.map (· ++ [event]))

/-- Sends an event to every subscription that still takes it, and lists only those from now on. -/
def emit (hub : Hub) (event : Event) : Hub :=
  let taking := hub.observers.filter hub.isLive
  { hub with
    latest := some event
    observers := taking
    backlogs := taking.foldl (deliver event) hub.backlogs }

/-- Ends the sending side; what is in the backlogs stays there. -/
def close (hub : Hub) : Hub := { hub with isOpen := false, observers := [] }

-----------------------------------------------------------------------------------------
-- Requests
-----------------------------------------------------------------------------------------

/-- What a subscriber does with its subscription. -/
inductive Mail
  | drain
  | tryRecv
  | recv
  | unsubscribe
deriving DecidableEq

/-- The hub with another backlog for a subscription. -/
def withBacklog (hub : Hub) (slot : Nat) (backlog : Option (List Event)) : Hub :=
  { hub with backlogs := hub.backlogs.set slot backlog }

/-- Handles a subscriber's request. Taking from an empty backlog answers at once: nothing yet, or
nothing any more if the hub is closed.
-/
def mail (hub : Hub) (slot : Nat) (request : Mail) : Answer × Hub :=
  match hub.backlog? slot with
  | none => (.refused .noSubscriber, hub)
  | some backlog =>
      match request, backlog with
      | .drain, _ => (.events backlog, hub.withBacklog slot (some []))
      | .unsubscribe, _ => (.done, hub.withBacklog slot none)
      | .tryRecv, [] => (.event none, hub)
      | .recv, [] => (if hub.isOpen then .pending else .closed, hub)
      | .tryRecv, event :: rest | .recv, event :: rest =>
          (.event (some event), hub.withBacklog slot (some rest))

/-- Everything that can be asked of a hub. -/
inductive Request
  | subscribe
  | emit (event : Event)
  | latest
  | close
  | mail (slot : Nat) (request : Mail)
deriving DecidableEq

/-- Handles a request. A closed hub serves only its subscribers. -/
def handle (hub : Hub) : Request → Answer × Hub
  | .mail slot request => hub.mail slot request
  | .subscribe =>
      if hub.isOpen then (.number hub.backlogs.length, hub.subscribe)
      else (.refused .noHub, hub)
  | .emit event => if hub.isOpen then (.done, hub.emit event) else (.refused .noHub, hub)
  | .latest => if hub.isOpen then (.event hub.latest, hub) else (.refused .noHub, hub)
  | .close => if hub.isOpen then (.done, hub.close) else (.refused .noHub, hub)

/-- What an emission puts into the log: the event and how many took it. -/
def emission (hub : Hub) (event : Event) : Notice :=
  .eventEmitted event (hub.emit event).observers.length

/-- What a request puts into the log. -/
def report (hub : Hub) : Request → List Notice
  | .emit event => if hub.isOpen then [hub.emission event] else []
  | _ => []

end Hub

end UpdaterLaunch
