import UpdaterLaunch.Event

/-! The answers to requests: the same few kinds, whoever is asked. -/

namespace UpdaterLaunch

/-- Why a request is turned down. -/
inductive Refusal
  | noHub
  | noSubscriber
  | noCoordinator
  | noScheduler
  | noScript
  | noSession
deriving DecidableEq

/-- What comes back from a request. -/
inductive Answer
  | done
  | number (value : Nat)
  | flag (value : Bool)
  | event (value : Option Event)
  | events (values : List Event)
  /-- Nothing has arrived, but something may. -/
  | pending
  /-- Nothing has arrived, and nothing will. -/
  | closed
  | refused (reason : Refusal)
deriving DecidableEq

end UpdaterLaunch
