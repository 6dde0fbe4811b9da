import VipKeeper.Net.Address

/-! Entries of the kernel's neighbor table. -/

namespace VipKeeper.Neighbor

/-- An Ethernet address. -/
abbrev Hardware := Vector UInt8 6

namespace Hardware

def zero : Hardware := Vector.replicate 6 0

def ofBytes? (bytes : List UInt8) : Option Hardware :=
  if six : bytes.length = 6 then some ⟨bytes.toArray, by simpa using six⟩ else none

/-- A byte as two hexadecimal digits. -/
def pair (byte : UInt8) : List Char :=
  let digits := Nat.toDigits 16 byte.toNat
  if digits.length < 2 then '0' :: digits else digits

def text (hardware : Hardware) : String :=
  String.ofList (List.intercalate [':'] (hardware.toList.map pair))

end Hardware

inductive Resolution where
  | incomplete
  | complete
  | permanent
  deriving DecidableEq

namespace Resolution

def name : Resolution → String
  | incomplete => "Incomplete"
  | complete => "Complete"
  | permanent => "Permanent"

end Resolution

structure Entry where
  address : Address
  hardware : Hardware
  resolution : Resolution
  device : String
  deriving DecidableEq

namespace Entry

def text (entry : Entry) : String :=
  entry.address.text ++ " lladdr " ++ Hardware.text entry.hardware ++ " dev " ++ entry.device ++
    " (" ++ entry.resolution.name ++ ")"

end Entry

end VipKeeper.Neighbor
