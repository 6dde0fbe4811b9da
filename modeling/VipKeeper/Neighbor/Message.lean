import VipKeeper.Neighbor.Entry

/-! Messages in which the kernel lists its neighbor table. -/

namespace VipKeeper.Neighbor

/-- An attribute of a kind that has no name here is kept as it came. -/
inductive Attribute where
  | destination (address : Address)
  | otherDestination (bytes : List UInt8)
  | linkLayer (bytes : List UInt8)
  | probes (count : Nat)
  | other (kind : UInt16) (bytes : List UInt8)

structure Message where
  family : Nat
  state : Nat
  interface : Nat
  attributes : List Attribute

namespace Message

/-- The families of version 4 and version 6 addresses. -/
def isIpFamily (family : Nat) : Bool :=
  family == 2 || family == 10

/-- Static entries are permanent; an entry without a state, in resolution or failed is incomplete. -/
def resolution (state : Nat) : Resolution :=
  match state with
  | 128 | 64 => .permanent
  | 1 | 32 | 0 => .incomplete
  | _ => .complete

/-- The last destination that is an IP address. -/
def destination? (attributes : List Attribute) : Option Address :=
  attributes.foldl (fun last item => match item with
    | .destination address => some address
    | _ => last) none

/-- The last link-layer address of six bytes. -/
def hardware (attributes : List Attribute) : Hardware :=
  attributes.foldl (fun last item => match item with
    | .linkLayer bytes => (Hardware.ofBytes? bytes).getD last
    | _ => last) Hardware.zero

/-- The table entry that a message describes. The device is asked for last, by the number of the interface,
and without a name for it there is no entry. -/
def entry? {m : Type → Type} [Monad m] (device : Nat → m (Option String)) (message : Message) :
    m (Option Entry) :=
  if isIpFamily message.family then
    match destination? message.attributes with
    | none => pure none
    | some address => do
      match ← device message.interface with
      | none => return none
      | some name =>
        return some ⟨address, hardware message.attributes, resolution message.state, name⟩
  else pure none

end Message

end VipKeeper.Neighbor
