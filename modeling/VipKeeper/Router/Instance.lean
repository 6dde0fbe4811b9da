import VipKeeper.Net.Address
import VipKeeper.Text.Blank
import VipKeeper.Text.Quoted

/-! The router instance that takes part in the election for the virtual addresses. -/

namespace VipKeeper

namespace Interface

/-- The longest name the kernel accepts for an interface. -/
def longestName : Nat := 15

/-- Characters that a configuration file or a path would take for syntax. -/
def isReserved (c : Char) : Bool :=
  c == '/' || c == '\x7b' || c == '\x7d' || c == '"' || c == '#' || c == '!'

/-- Whether a text can name an interface and stand in a configuration file as it is. -/
def isName (name : String) : Bool :=
  !name.toList.isEmpty && decide (name.toList.length ≤ longestName) && name != "." && name != ".." &&
    name.toList.all (fun c => Text.isVisibleAscii c && !isReserved c)

end Interface

/-- An election by messages to named peers. -/
structure Unicast where
  source : Address
  peers : List Address
  deriving DecidableEq

namespace Unicast

/-- The election among declared peers as seen from one of them: the others, ascending and each once. -/
def among (peers : List Address) (source : Address) : Unicast :=
  ⟨source, Ordered.distinct (peers.filter (fun peer => !decide (peer = source)))⟩

end Unicast

/-- A router instance. The interval between advertisements is in hundredths of a second; without unicast
settings the election goes by multicast. -/
structure Instance where
  name : String
  routerId : UInt8
  priority : UInt8
  advertInterval : UInt16
  interface : String
  addresses : List Address
  unicast : Option Unicast
  deriving DecidableEq

/-- Why an instance cannot take part in an election. -/
inductive InstanceProblem where
  | routerId
  | priority
  | noAddress
  | interfaceName (name : String)
  | noPeer
  | sourceAmongPeers
  deriving DecidableEq

namespace Instance

def defaultAdvertInterval : UInt16 := 100

/-- The priority above it belongs to the owner of the addresses, who would skip the election. -/
def highestPriority : UInt8 := 254

def default : Instance :=
  ⟨"lb", 1, 100, defaultAdvertInterval, "eth0", [], none⟩

/-- The first problem of an instance. -/
def problem? (router : Instance) : Option InstanceProblem :=
  if router.routerId = 0 then some .routerId
  else if router.priority = 0 ∨ highestPriority < router.priority then some .priority
  else if router.addresses.isEmpty then some .noAddress
  else if !Interface.isName router.interface then some (.interfaceName router.interface)
  else match router.unicast with
    | none => none
    | some unicast =>
      if unicast.peers.isEmpty then some .noPeer
      else if unicast.source ∈ unicast.peers then some .sourceAmongPeers
      else none

/-- The interval between advertisements in whole seconds, at least one. -/
def advertSeconds (router : Instance) : Nat :=
  max 1 (router.advertInterval.toNat / 100)

end Instance

namespace InstanceProblem

def message : InstanceProblem → String
  | routerId => "VRID must be between 1 and 255"
  | priority => "Priority must be between 1 and " ++ toString Instance.highestPriority.toNat
  | noAddress => "At least one virtual IP is required"
  | interfaceName name => "Invalid interface name " ++ Text.quoted name
  | noPeer => "Unicast election needs at least one peer besides the source"
  | sourceAmongPeers => "Unicast peers must not contain the source address"

end InstanceProblem

end VipKeeper
