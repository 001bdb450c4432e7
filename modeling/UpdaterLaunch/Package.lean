/-! A package as the configuration describes it. -/

namespace UpdaterLaunch

/-- A package: its name, the actions it has a component for, and whether it is a stub, installed
but without a real implementation.
-/
structure Package where
  name : String := ""
  handledActions : List String := []
  stub : Bool := false
deriving DecidableEq, Inhabited

end UpdaterLaunch
