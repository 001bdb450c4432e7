/-! The environment of the program: variables with values that are text. A value that is no text
counts as none.
-/

namespace UpdaterLaunch

/-- Variables with their values. -/
structure Environment where
  values : List (String × String) := []
deriving Inhabited

namespace Environment

/-- The value of a variable, if it is set. -/
def get? (environment : Environment) (name : String) : Option String :=
  environment.values.lookup name

/-- The text after a name and an equals sign, where a variable with its value starts with these. A
name with an equals sign in it is that of a variable and the start of its value.
-/
def textAfter? (environment : Environment) (name : String) : Option String :=
  let (holder, start) := name.toList.span (· ≠ '=')
  match start with
  | [] => environment.get? name
  | _ :: start => do
      let value ← environment.get? (.ofList holder)
      let start := start ++ ['=']
      if start.isPrefixOf value.toList then
        some (.ofList (value.toList.drop start.length))
      else none

/-- Sets a variable that is not set yet. No value can hold the character with the number 0. -/
def provide? (environment : Environment) (name value : String) : Option Environment :=
  match environment.get? name with
  | some _ => some environment
  | none =>
      if value.toList.any (·.toNat = 0) then none
      else some ⟨(name, value) :: environment.values⟩

end Environment

end UpdaterLaunch
