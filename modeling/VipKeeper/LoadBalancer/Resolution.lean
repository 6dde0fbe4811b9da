import VipKeeper.LoadBalancer.Validation

/-! What an accepted load balancer comes to in a given cluster: its virtual servers with the real servers
behind them, and its router instance. The order of the nodes makes no difference. -/

namespace VipKeeper.LoadBalancer

/-- The weight of a server for which none is declared. -/
def defaultWeight : UInt32 := 1

/-- Real servers are addressed on the port of the service. -/
def servicePort : UInt16 := 0

namespace Service

/-- The addresses of the ready nodes that carry the labels of a service, ascending and each once. -/
def backends (service : Service) (membership : Membership) : List Address :=
  Ordered.distinct ((membership.nodes.filter (fun node =>
    node.ready && node.carries service.selector)).map Node.address)

def weight (service : Service) (address : Address) : UInt32 :=
  (service.weights.get? address).getD defaultWeight

def realServers (service : Service) (membership : Membership) : List RealServer :=
  (service.backends membership).map (fun address => ⟨address, servicePort, service.weight address⟩)

end Service

namespace Accepted

def virtualServer (accepted : Accepted) (membership : Membership) (service : Service) : VirtualServer :=
  ⟨accepted.fwmark, service.protocol, service.scheduler, service.realServers membership⟩

/-- One virtual server for each protocol, in protocol order. -/
def virtualServers (accepted : Accepted) (membership : Membership) : List VirtualServer :=
  (OrderedMap.ofList (accepted.services.map (fun service =>
    (service.protocol, accepted.virtualServer membership service)))).entries.map Prod.snd

end Accepted

/-- The name of the router instance of a load balancer. A character that is no letter or digit of ASCII
becomes an underscore. -/
def instanceName (key : ObjectKey) : String :=
  String.ofList ((key.scope.toList ++ '_' :: key.name.toList).map (fun c => if c.isAlphanum then c else '_'))

namespace Accepted

def router (accepted : Accepted) (key : ObjectKey) (unicast : Option Unicast) : Instance :=
  ⟨instanceName key, accepted.routerId, accepted.priority, Instance.defaultAdvertInterval, accepted.interface,
    accepted.addresses, unicast⟩

/-- The unicast settings of an instance, which need the address of this node if peers are declared. -/
def unicast (accepted : Accepted) (source : Option Address) : Except (List Problem) (Option Unicast) :=
  match accepted.peers, source with
  | none, _ => .ok none
  | some peers, some source => .ok (some (Unicast.among peers source))
  | some _, none => .error [.noSourceAddress]

end Accepted

end VipKeeper.LoadBalancer
