import UpdaterLaunch.Target
import UpdaterLaunch.Ident

/-! What a device can be asked, and asking a list of targets until one is refused. A procedure
that asks a device returns its questions in their order, beside its answer.
-/

namespace UpdaterLaunch

/-- The answers of a device to the three questions it can be asked. -/
structure Device where
  isInstalled : String → Bool
  isStub : String → Bool
  resolves : Target → User → Bool

/-- A question to a device. -/
inductive Query
  | isInstalled (package : String)
  | isStub (package : String)
  | resolves (target : Target) (user : User)
deriving DecidableEq

namespace Device

/-- The answer to a question. -/
def answer (device : Device) : Query → Bool
  | .isInstalled package => device.isInstalled package
  | .isStub package => device.isStub package
  | .resolves target user => device.resolves target user

/-- Asks the questions in order up to the first one denied; whether none was. -/
def askAll (device : Device) : List Query → List Query × Bool
  | [] => ([], true)
  | query :: rest =>
      if device.answer query then
        let (asked, all) := device.askAll rest
        (query :: asked, all)
      else ([query], false)

end Device

end UpdaterLaunch
