import UpdaterLaunch.Target.Extras

/-! A launch target says what to start: an action, the package it is pinned to, if any, and
extras that go along. Two targets are equal when all three are.
-/

namespace UpdaterLaunch

/-- What to start: an action, perhaps in one package only, with extras. -/
structure Target where
  action : String
  package : Option String := none
  extras : Extras := .empty
deriving DecidableEq, Inhabited

namespace Target

/-- The target pinned to a package; an earlier pin is forgotten. -/
def withPackage (target : Target) (package : String) : Target :=
  { target with package := some package }

/-- The target with one extra written. -/
def withExtra (target : Target) (key value : String) : Target :=
  { target with extras := target.extras.insert key value }

/-- The target with all given extras written over its own. -/
def withExtras (target : Target) (extras : Extras) : Target :=
  { target with extras := target.extras.merge extras }

/-- One step of putting a target together. -/
inductive Edit
  | package (name : String)
  | extra (key value : String)
  | extras (values : Extras)

/-- The target after one more step. -/
def edit (target : Target) : Edit → Target
  | .package name => target.withPackage name
  | .extra key value => target.withExtra key value
  | .extras values => target.withExtras values

/-- The target that a bare action and a list of steps give. -/
def build (action : String) (edits : List Edit) : Target :=
  edits.foldl edit { action }

/-- The text shown for a target: its action, and its package behind an arrow. -/
def display (target : Target) : String :=
  match target.package with
  | some package => target.action ++ " -> " ++ package
  | none => target.action

end Target

end UpdaterLaunch
