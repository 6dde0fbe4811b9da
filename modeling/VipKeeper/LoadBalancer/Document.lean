import VipKeeper.LoadBalancer.Change
import VipKeeper.LoadBalancer.Written

/-! The document that holds all load balancers and the nodes of the cluster, and what changes from one
document to the next. -/

namespace VipKeeper

structure SourceDocument where
  balancers : List LoadBalancer
  membership : Membership
  deriving DecidableEq

namespace SourceDocument

def empty : SourceDocument := ⟨[], .empty⟩

/-- Reads a document as it stands; a version that is left out stays empty. -/
def read? {ν : Type} (format : Format ν) (value : ν) : Option SourceDocument := do
  let member ← format.record? [.named "loadBalancers", .named "membership"] value
  return ⟨← Format.defaulted [] (format.list? (LoadBalancer.read? format)) (member "loadBalancers"),
    ← Format.defaulted .empty (Membership.read? format) (member "membership")⟩

/-- The load balancers by key. Of several with one key the last counts. -/
def byKey (document : SourceDocument) : OrderedMap ObjectKey LoadBalancer :=
  OrderedMap.ofList (document.balancers.map (fun balancer => (balancer.key, balancer)))

/-- The first load balancer with a key. -/
def get? (document : SourceDocument) (key : ObjectKey) : Option LoadBalancer :=
  document.balancers.find? (fun balancer => decide (balancer.key = key))

/-- What is new or different in a later table. -/
def arrivals (before after : OrderedMap ObjectKey LoadBalancer) : List Change :=
  after.entries.filterMap (fun (key, balancer) =>
    match before.get? key with
    | none => some (.added balancer)
    | some old => if old = balancer then none else some (.updated old balancer))

/-- What is missing in a later table. -/
def departures (before after : OrderedMap ObjectKey LoadBalancer) : List Change :=
  before.entries.filterMap (fun (key, balancer) =>
    if after.contains key then none else some (.deleted balancer))

/-- The events that lead from one document to another: arrivals, departures, and the membership last. -/
def diff (old new : SourceDocument) : List Event :=
  (arrivals old.byKey new.byKey ++ departures old.byKey new.byKey).map .balancer ++
    if old.membership = new.membership then [] else [.membership]

end SourceDocument

end VipKeeper
