import VipKeeper.Service.Server

/-! What a user wants: the desired state of a load balancer and the nodes of the cluster it serves. -/

namespace VipKeeper

/-- The name of an object inside its namespace. -/
structure ObjectKey where
  scope : String
  name : String
  deriving DecidableEq

namespace ObjectKey

def text (key : ObjectKey) : String :=
  key.scope ++ "/" ++ key.name

/-- Objects are ordered by namespace and then by name. -/
instance : Ranked ObjectKey where
  before a b := Ranked.before (a.scope, a.name) (b.scope, b.name)
  irrefl _ := Ranked.irrefl _
  trans := Ranked.trans
  total := by
    intro a b first second
    have same := Ranked.total first second
    cases a
    cases b
    simpa using same

end ObjectKey

namespace LoadBalancer

/-- A service as it is declared; its scheduler is any text. -/
structure Declared where
  protocol : Protocol
  scheduler : String
  selector : OrderedMap String String
  weights : OrderedMap Address UInt32
  deriving DecidableEq

/-- The election as it is declared: any numbers. -/
structure Election where
  routerId : UInt32
  priority : UInt32
  peers : Option (List Address)
  deriving DecidableEq

/-- What a load balancer should be. -/
structure Spec where
  addresses : List Address
  interface : String
  election : Election
  fwmark : UInt32
  services : List Declared
  deriving DecidableEq

end LoadBalancer

/-- A load balancer. The `uid` tells objects apart that had the same key one after the other, and the version
tells states of one object apart. -/
structure LoadBalancer where
  key : ObjectKey
  uid : String
  version : String
  spec : LoadBalancer.Spec
  deriving DecidableEq

/-- A node of the cluster. -/
structure Node where
  name : String
  address : Address
  ready : Bool
  labels : OrderedMap String String
  deriving DecidableEq

namespace Node

/-- Whether a node carries every label of a selector. -/
def carries (node : Node) (selector : OrderedMap String String) : Bool :=
  selector.entries.all (fun label => decide (node.labels.get? label.1 = some label.2))

end Node

/-- The nodes of the cluster, in no particular order. -/
structure Membership where
  nodes : List Node
  deriving DecidableEq

namespace Membership

def empty : Membership := ⟨[]⟩

end Membership

end VipKeeper
