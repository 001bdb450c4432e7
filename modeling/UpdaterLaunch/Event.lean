import UpdaterLaunch.Budget
import UpdaterLaunch.Target

/-! What a coordinator tells its subscribers. -/

namespace UpdaterLaunch

/-- The updater is to be launched, or will not be launched any more. -/
inductive Event
  | launchRequested (target : Target)
  | failed (reason : Failure)
deriving DecidableEq

end UpdaterLaunch
