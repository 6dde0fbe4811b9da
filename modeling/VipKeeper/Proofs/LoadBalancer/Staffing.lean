import VipKeeper.LoadBalancer.Resolution
import VipKeeper.Proofs.LoadBalancer.Acceptance
import VipKeeper.Proofs.Lists

/-! Which real servers stand behind the virtual servers of an accepted specification. -/

namespace VipKeeper

namespace Address

def version : Address → Nat
  | v4 .. => 4
  | v6 _ => 6

theorem version_le_of_before {first second : Address} (before : Ranked.before first second = true) :
    first.version ≤ second.version := by
  have below : first.parts < second.parts := of_decide_eq_true before
  cases first <;> cases second
  next => exact Nat.le_refl 4
  next => exact Nat.le_of_ble_eq_true rfl
  next => simp [parts, List.cons_lt_cons_iff] at below
  next => exact Nat.le_refl 6

end Address

/-- A node has every label that a selector asks for, with the value that it asks for. -/
def Node.Matches (node : Node) (selector : OrderedMap String String) : Prop :=
  ∀ label value, selector.get? label = some value → node.labels.get? label = some value

theorem Node.carries_iff {node : Node} {selector : OrderedMap String String} :
    node.carries selector = true ↔ node.Matches selector := by
  simp only [carries, List.all_eq_true, decide_eq_true_eq, Node.Matches]
  constructor
  · intro carried label value wanted
    exact carried (label, value) (OrderedMap.mem_entries_iff.2 wanted)
  · rintro matched ⟨label, value⟩ inside
    exact matched label value (OrderedMap.mem_entries_iff.1 inside)

namespace LoadBalancer

namespace Service

/-- Real servers for a service: one for each address at which a ready node matches the service, those of version 4
before those of version 6. -/
structure Staffed (service : Service) (membership : Membership) (servers : List RealServer) : Prop where
  ascending : servers.Pairwise (fun a b => Ranked.before a.address b.address = true)
  versions : servers.Pairwise (fun a b => a.address.version ≤ b.address.version)
  mem_iff : ∀ address, address ∈ servers.map RealServer.address ↔
    ∃ node ∈ membership.nodes, node.address = address ∧ node.ready = true ∧ node.Matches service.selector
  port : ∀ server ∈ servers, server.port = 0
  weight : ∀ server ∈ servers, server.weight = (service.weights.get? server.address).getD 1

/-- A virtual server that distributes a service under a firewall mark. -/
structure ServedBy (service : Service) (fwmark : UInt32) (membership : Membership) (server : VirtualServer) :
    Prop where
  fwmark : server.fwmark = fwmark
  protocol : server.protocol = service.protocol
  scheduler : server.scheduler = service.scheduler
  staffed : service.Staffed membership server.realServers

theorem mem_backends {service : Service} {membership : Membership} {address : Address} :
    address ∈ service.backends membership ↔
      ∃ node ∈ membership.nodes, node.address = address ∧ node.ready = true ∧ node.Matches service.selector := by
  simp only [backends, Ordered.mem_distinct, List.mem_map, List.mem_filter, Bool.and_eq_true, Node.carries_iff]
  constructor
  · rintro ⟨node, ⟨inside, ready, matched⟩, same⟩
    exact ⟨node, inside, same, ready, matched⟩
  · rintro ⟨node, inside, same, ready, matched⟩
    exact ⟨node, ⟨inside, ready, matched⟩, same⟩

theorem staffed_realServers (service : Service) (membership : Membership) :
    service.Staffed membership (service.realServers membership) := by
  have addresses : (service.realServers membership).map RealServer.address = service.backends membership := by
    rw [realServers, List.map_map]
    exact List.map_id' _
  have ascending : ((service.realServers membership).map RealServer.address).Pairwise
      (fun a b => Ranked.before a b = true) := by
    rw [addresses]
    exact Ordered.ascending_distinct _
  have ranked := List.pairwise_map.1 ascending
  refine ⟨ranked, ranked.imp Address.version_le_of_before, ?_, ?_, ?_⟩
  · intro address
    rw [addresses, mem_backends]
  · exact List.forall_mem_map.2 (fun _ _ => rfl)
  · exact List.forall_mem_map.2 (fun _ _ => rfl)

end Service

/-- Services in the strict order of their protocols come to one virtual server each, in that order. -/
theorem Accepted.virtualServers_of_ascending {result : Accepted}
    (ascending : result.services.Pairwise (fun a b => Ranked.before a.protocol b.protocol = true))
    (membership : Membership) :
    result.virtualServers membership = result.services.map (result.virtualServer membership) := by
  let table : OrderedMap Protocol VirtualServer :=
    ⟨result.services.map (fun service => (service.protocol, result.virtualServer membership service)),
      List.pairwise_map.2 ascending⟩
  have same : (OrderedMap.ofList table.entries).entries = table.entries := by rw [table.ofList_entries]
  rw [Accepted.virtualServers, same, List.map_map]
  rfl

/-- An accepted specification has one virtual server for each of its services, in the strict order of the protocols,
and behind it exactly the ready nodes that match the service. -/
theorem virtualServers_exact {spec : Spec} {result : Accepted} (valid : spec.validate = .ok result)
    (membership : Membership) :
    List.Forall₂ (fun service server => service.ServedBy spec.fwmark membership server) result.services
        (result.virtualServers membership) ∧
      (result.virtualServers membership).Pairwise (fun a b => Ranked.before a.protocol b.protocol = true) := by
  obtain ⟨acceptable, rfl⟩ := Spec.validate_eq_ok_iff.1 valid
  have ascending := acceptable.carries.ascending
  rw [Accepted.virtualServers_of_ascending ascending]
  constructor
  · rw [List.forall₂_map_right_iff, List.forall₂_same]
    intro service _
    exact ⟨rfl, rfl, rfl, service.staffed_realServers membership⟩
  · exact List.pairwise_map.2 ascending

/-! ### Two services with different nodes -/

def drained : Service :=
  ⟨.tcp, .weightedRoundRobin, .ofList [("role", "ingress")], .ofList [(.v4 10 1 0 2, 0)]⟩

def everywhere : Service :=
  ⟨.udp, .sourceHashing, .empty, .empty⟩

def twofoldSpec : Spec :=
  ⟨[.v4 10 0 0 5], "eth0", ⟨50, 100, none⟩, 7,
    [⟨.udp, "SH", everywhere.selector, everywhere.weights⟩, ⟨.tcp, " wrr", drained.selector, drained.weights⟩]⟩

/-- Two nodes share an address, and only the one that is not ready has the label. -/
def crew : Membership :=
  ⟨[⟨"a", .v4 10 1 0 3, true, drained.selector⟩, ⟨"b", .v4 10 1 0 2, true, drained.selector⟩,
    ⟨"c", .v4 10 1 0 4, false, drained.selector⟩, ⟨"d", .v4 10 1 0 4, true, .empty⟩]⟩

theorem virtualServers_exact_twofold :
    twofoldSpec.validate = .ok twofoldSpec.accepted ∧
      ∃ tcp udp, twofoldSpec.accepted.virtualServers crew = [tcp, udp] ∧ drained.ServedBy 7 crew tcp ∧
        everywhere.ServedBy 7 crew udp := by
  have valid : twofoldSpec.validate = .ok twofoldSpec.accepted := if_pos (by decide +kernel)
  have declared : twofoldSpec.services.filterMap Declared.service? = [everywhere, drained] := by decide +kernel
  have services : twofoldSpec.accepted.services = [drained, everywhere] := by
    simp [Spec.accepted, declared, Spec.inProtocolOrder, List.mergeSort, everywhere, drained, Protocol.rank]
  have exact := (virtualServers_exact valid crew).1
  rw [services] at exact
  obtain ⟨tcp, _, first, rest, listed⟩ := List.forall₂_cons_left_iff.1 exact
  obtain ⟨udp, _, second, none, rfl⟩ := List.forall₂_cons_left_iff.1 rest
  rw [List.forall₂_nil_left_iff.1 none] at listed
  exact ⟨valid, tcp, udp, listed, first, second⟩

end LoadBalancer

end VipKeeper
