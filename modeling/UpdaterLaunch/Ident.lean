/-! Names for users of the device and for launch sessions. -/

namespace UpdaterLaunch

/-- A user of the device, by number. -/
structure User where
  number : UInt32
deriving DecidableEq, Inhabited

namespace User

/-- The user that the system runs as. -/
def system : User := ⟨0⟩

/-- Whether a user is the system's. -/
def isSystem (user : User) : Bool := user == system

/-- The text shown for a user. -/
def display (user : User) : String := "u" ++ user.number.toNat.repr

end User

/-- The name of a launch session; any text will do. -/
structure SessionId where
  text : String
deriving DecidableEq

namespace SessionId

/-- The text shown for a session name is the name. -/
def display (id : SessionId) : String := id.text

/-- The last `count` hexadecimal digits of a number, high digits first and in lower case. -/
def hexDigits (number count : Nat) : List Char :=
  (List.range count).reverse.map fun i => Nat.digitChar (number >>> (4 * i) % 16)

/-- A name made of 122 random bits, in the form of a random identifier: 32 digits in groups of 8,
4, 4, 4 and 12, of which one tells the version, 4, and one the variant.
-/
def ofRandom (bits : Nat) : SessionId :=
  let group (shift count : Nat) := hexDigits (bits >>> shift) count
  let variant := hexDigits (8 + bits >>> 60 % 4) 1
  ⟨.ofList (group 90 8 ++ '-' :: group 74 4 ++ '-' :: '4' :: group 62 3 ++ '-' :: variant
    ++ group 48 3 ++ '-' :: group 0 12)⟩

/-- Where the version stands in a random name. -/
def versionIndex : Nat := 14

/-- A name with each hexadecimal digit but the version hidden behind an x. -/
def shape (id : SessionId) : String :=
  let isHex (c : Char) := c.isDigit || ('a' ≤ c && c ≤ 'f')
  .ofList (id.text.toList.mapIdx fun i c => if isHex c && i != versionIndex then 'x' else c)

end SessionId

end UpdaterLaunch
