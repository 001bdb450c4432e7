/-! What the updater reports, and how a session ends. -/

namespace UpdaterLaunch

/-- What the updater reports after it was launched. -/
inductive Verdict
  | ok
  | canceled
  | failed
deriving DecidableEq

/-- The name of a verdict. -/
def Verdict.name : Verdict → String
  | .ok => "Ok"
  | .canceled => "Canceled"
  | .failed => "Failed"

/-- How a session ends: the role holder was updated, or the caller has to fall back. -/
inductive Outcome
  | updated
  | cancelled
deriving DecidableEq

/-- The name of an outcome. -/
def Outcome.name : Outcome → String
  | .updated => "Updated"
  | .cancelled => "Cancelled"

end UpdaterLaunch
