import Mathlib.Logic.Relation
import VipKeeper.Proofs.Artifact.Outline

/-! What makes no difference to a configuration: the order of nodes, services and peers, repetitions among them, names
and idle nodes, and which object it is that declares them. -/

namespace VipKeeper

/-- A list in another order, or with one of its values once more. -/
inductive Shuffled {α : Type} : List α → List α → Prop where
  | order {values values' : List α} (perm : values.Perm values') : Shuffled values values'
  | again {value : α} {values : List α} (inside : value ∈ values) : Shuffled values (value :: values)

theorem Shuffled.mem_iff {α : Type} {values values' : List α} (shuffled : Shuffled values values') (value : α) :
    value ∈ values ↔ value ∈ values' := by
  cases shuffled with
  | order perm => exact perm.mem_iff
  | again inside =>
    rw [List.mem_cons]
    exact ⟨.inr, fun either => either.elim (fun same => same ▸ inside) id⟩

namespace LoadBalancer

/-- The same specification with other peers. -/
def Spec.withPeers (spec : Spec) (peers : List Address) : Spec :=
  { spec with election := { spec.election with peers := some peers } }

/-- Which node has an address makes no difference to a service. -/
theorem Declared.nodes_congr {declared : Declared} {first second : Membership}
    (same : ∀ address,
      (∃ node ∈ first.nodes, (node.ready && node.carries declared.selector) = true ∧ node.address = address) ↔
        ∃ node ∈ second.nodes, (node.ready && node.carries declared.selector) = true ∧ node.address = address) :
    declared.nodes first = declared.nodes second := by
  refine Ordered.distinct_congr (fun address => ?_)
  simpa only [List.mem_map, List.mem_filter, and_assoc] using same address

end LoadBalancer

namespace Sync

open LoadBalancer (Declared Spec Accepted)

/-- A load balancer and the nodes that it is declared for. -/
structure Deployment where
  balancer : LoadBalancer
  membership : Membership

/-- One change that should make no difference on a site. -/
inductive Rearranged (site : Site) : Deployment → Deployment → Prop where
  | nodes (balancer : LoadBalancer) {nodes nodes' : List Node} (shuffled : Shuffled nodes nodes') :
      Rearranged site ⟨balancer, ⟨nodes⟩⟩ ⟨balancer, ⟨nodes'⟩⟩
  | renamed (balancer : LoadBalancer) (front back : List Node) (node : Node) (name : String) :
      Rearranged site ⟨balancer, ⟨front ++ node :: back⟩⟩ ⟨balancer, ⟨front ++ { node with name := name } :: back⟩⟩
  | idle (balancer : LoadBalancer) (nodes : List Node) (node : Node)
      (unused : node.ready = false ∨ ∀ declared ∈ balancer.spec.services, node.carries declared.selector = false) :
      Rearranged site ⟨balancer, ⟨nodes⟩⟩ ⟨balancer, ⟨node :: nodes⟩⟩
  | services (balancer : LoadBalancer) (membership : Membership) {services : List Declared}
      (perm : balancer.spec.services.Perm services) :
      Rearranged site ⟨balancer, membership⟩
        ⟨{ balancer with spec := { balancer.spec with services := services } }, membership⟩
  | peers (balancer : LoadBalancer) (membership : Membership) {peers peers' : List Address}
      (declared : balancer.spec.election.peers = some peers) (shuffled : Shuffled peers peers') :
      Rearranged site ⟨balancer, membership⟩
        ⟨{ balancer with spec := balancer.spec.withPeers peers' }, membership⟩
  | self (balancer : LoadBalancer) (membership : Membership) {peers : List Address} {own : Address}
      (declared : balancer.spec.election.peers = some peers) (here : site.address = some own) :
      Rearranged site ⟨balancer, membership⟩
        ⟨{ balancer with spec := balancer.spec.withPeers (own :: peers) }, membership⟩
  | identity (balancer : LoadBalancer) (membership : Membership) (uid version : String) :
      Rearranged site ⟨balancer, membership⟩ ⟨{ balancer with uid := uid, version := version }, membership⟩

namespace Deployment

/-- A pass for a key compiles a configuration. -/
def Compiles (deployment : Deployment) (site : Site) (key : ObjectKey) (trigger : Option String) (draft : Draft) : Prop :=
  ∃ accepted unicast, Aim.ofObject site trigger (some deployment.balancer) = .ok (.plan accepted unicast) ∧
    Draft.make site key accepted unicast deployment.membership = .ok draft

/-- The declared services, each with the addresses that serve it. -/
def served (deployment : Deployment) : List (Declared × List Address) :=
  deployment.balancer.spec.services.map (fun declared => (declared, declared.nodes deployment.membership))

/-- What two deployments have in common that come to the same configuration. -/
structure Alike (site : Site) (key : ObjectKey) (first second : Deployment) : Prop where
  router (unicast : Option Unicast) :
    first.balancer.spec.accepted.router key unicast = second.balancer.spec.accepted.router key unicast
  unicast : first.balancer.spec.accepted.unicast site.address = second.balancer.spec.accepted.unicast site.address
  fwmark : first.balancer.spec.fwmark = second.balancer.spec.fwmark
  served : first.served.Perm second.served

variable {site : Site} {key : ObjectKey} {first second third : Deployment}

theorem Alike.refl (deployment : Deployment) : Alike site key deployment deployment :=
  ⟨fun _ => rfl, rfl, rfl, .refl _⟩

theorem Alike.symm (alike : Alike site key first second) : Alike site key second first :=
  ⟨fun unicast => (alike.router unicast).symm, alike.unicast.symm, alike.fwmark.symm, alike.served.symm⟩

theorem Alike.trans (alike : Alike site key first second) (further : Alike site key second third) :
    Alike site key first third :=
  ⟨fun unicast => (alike.router unicast).trans (further.router unicast), alike.unicast.trans further.unicast,
    alike.fwmark.trans further.fwmark, alike.served.trans further.served⟩

end Deployment

/-! ### One change -/

variable {site : Site} {first second : Deployment}

namespace Rearranged

/-- Nodes that make no difference to any service make none to the configuration. -/
theorem alike_of_nodes (site : Site) (key : ObjectKey) (balancer : LoadBalancer) {membership membership' : Membership}
    (same : ∀ declared ∈ balancer.spec.services, declared.nodes membership = declared.nodes membership') :
    Deployment.Alike site key ⟨balancer, membership⟩ ⟨balancer, membership'⟩ := by
  refine ⟨fun _ => rfl, rfl, rfl, .of_eq ?_⟩
  exact List.map_congr_left (fun declared inside => congrArg (declared, ·) (same declared inside))

/-- Peers make no difference but by the election that they come to. -/
theorem alike_of_peers (key : ObjectKey) (balancer : LoadBalancer) (membership : Membership)
    {peers peers' : List Address} (declared : balancer.spec.election.peers = some peers)
    (same : ∀ own, site.address = some own → Unicast.among peers own = Unicast.among peers' own) :
    Deployment.Alike site key ⟨balancer, membership⟩
      ⟨{ balancer with spec := balancer.spec.withPeers peers' }, membership⟩ := by
  refine ⟨fun _ => rfl, ?_, rfl, .refl _⟩
  have before : balancer.spec.accepted.peers = some peers := declared
  have after : (balancer.spec.withPeers peers').accepted.peers = some peers' := rfl
  unfold Accepted.unicast
  rw [before, after]
  cases here : site.address with
  | none => rfl
  | some own => simp only [same own here]

theorem alike (rearranged : Rearranged site first second) (key : ObjectKey) : first.Alike site key second := by
  cases rearranged with
  | nodes balancer shuffled =>
    refine alike_of_nodes site key balancer (fun declared _ => Declared.nodes_congr (fun address => ?_))
    simp only [shuffled.mem_iff]
  | renamed balancer front back node name =>
    refine alike_of_nodes site key balancer (fun declared _ => Declared.nodes_congr (fun address => ?_))
    simp only [List.mem_append, List.mem_cons, or_and_right, exists_or, exists_eq_left, Node.carries]
  | idle balancer nodes node unused =>
    refine alike_of_nodes site key balancer (fun declared inside => Declared.nodes_congr (fun address => ?_))
    have out : (node.ready && node.carries declared.selector) = false := by
      rcases unused with absent | unmarked
      · rw [absent, Bool.false_and]
      · rw [unmarked declared inside, Bool.and_false]
    simp only [List.mem_cons, or_and_right, exists_or, exists_eq_left, out, Bool.false_eq_true, false_and, false_or]
  | services balancer membership perm => exact ⟨fun _ => rfl, rfl, rfl, perm.map _⟩
  | peers balancer membership declared shuffled =>
    refine alike_of_peers key balancer membership declared (fun own _ => ?_)
    refine congrArg (Unicast.mk own) (Ordered.distinct_congr (fun peer => ?_))
    simp only [List.mem_filter, shuffled.mem_iff]
  | self balancer membership declared here =>
    -- The own address is never among the peers that are kept.
    refine alike_of_peers key balancer membership declared (fun own this => ?_)
    cases here.symm.trans this
    simp [Unicast.among]
  | identity balancer membership uid version => exact ⟨fun _ => rfl, rfl, rfl, .refl _⟩

end Rearranged

theorem alike_of_rearranged (rearranged : Relation.EqvGen (Rearranged site) first second) (key : ObjectKey) :
    first.Alike site key second := by
  induction rearranged with
  | rel _ _ once => exact once.alike key
  | refl deployment => exact .refl deployment
  | symm _ _ _ ih => exact ih.symm
  | trans _ _ _ _ _ ih further => exact ih.trans further

/-! ### The configuration -/

namespace Deployment

/-- The virtual server of a service, if its scheduler exists. -/
def virtualServer? (fwmark : UInt32) (service : Declared × List Address) : Option VirtualServer :=
  (Scheduler.ofName? service.1.scheduler).map (fun scheduler =>
    ⟨fwmark, service.1.protocol, scheduler, service.2.map (fun address =>
      ⟨address, LoadBalancer.servicePort, (service.1.weights.get? address).getD LoadBalancer.defaultWeight⟩)⟩)

/-- The services that are served for a protocol. -/
def servedFor (deployment : Deployment) (protocol : Protocol) : List (Declared × List Address) :=
  deployment.served.filter (fun service => decide (service.1.protocol = protocol))

theorem servedFor_eq (deployment : Deployment) (protocol : Protocol) :
    deployment.servedFor protocol = (deployment.balancer.spec.declaredFor protocol).map (fun declared =>
      (declared, declared.nodes deployment.membership)) := by
  rw [servedFor, served, List.filter_map]
  rfl

theorem virtualServers_eq {deployment : Deployment} (sound : deployment.balancer.spec.Sound) :
    deployment.balancer.spec.accepted.virtualServers deployment.membership =
      [Protocol.tcp, .udp].flatMap (fun protocol =>
        (deployment.servedFor protocol).filterMap (virtualServer? deployment.balancer.spec.fwmark)) := by
  rw [sound.virtualServers_eq]
  refine List.flatMap_congr (fun protocol _ => ?_)
  rw [servedFor_eq, List.filterMap_map, List.map_filterMap]
  refine List.filterMap_congr (fun declared _ => ?_)
  rw [Function.comp_apply, virtualServer?, Declared.service?, Option.map_map]
  -- By congruence, since to unfold both sides would be to look the scheduler's name up.
  refine congrArg (Option.map · (Scheduler.ofName? declared.scheduler)) (funext fun scheduler => ?_)
  rfl

/-- Where each protocol is declared once, the order of the services is lost. -/
theorem Alike.servedFor {key : ObjectKey} (alike : Alike site key first second) (sound : second.balancer.spec.Sound)
    (protocol : Protocol) : first.servedFor protocol = second.servedFor protocol := by
  have short : (second.servedFor protocol).length ≤ 1 := by
    rw [servedFor_eq, List.length_map]
    exact sound.length_declaredFor protocol
  exact eq_of_perm_of_short (alike.served.filter _) short

theorem Compiles.artifact_eq {deployment : Deployment} {key : ObjectKey} {trigger : Option String} {draft : Draft}
    (compiles : deployment.Compiles site key trigger draft) :
    deployment.balancer.spec.Sound ∧ ∃ unicast, deployment.balancer.spec.accepted.unicast site.address = .ok unicast ∧
      draft.artifact = Artifact.compile site.reportPath (deployment.balancer.spec.accepted.router key unicast)
        (deployment.balancer.spec.accepted.virtualServers deployment.membership) := by
  obtain ⟨accepted, unicast, aimed, made⟩ := compiles
  obtain ⟨sound, rfl, chosen⟩ := planned aimed
  obtain ⟨-, rfl⟩ := Draft.make_eq_ok_iff.1 made
  exact ⟨sound, unicast, chosen, rfl⟩

/-- However the nodes, services and peers are rearranged, whatever nodes are called or idle, and whichever object
declares them: the text of the configuration is the same. -/
theorem artifact_of_rearranged {key : ObjectKey} {trigger trigger' : Option String} {draft draft' : Draft}
    (rearranged : Relation.EqvGen (Rearranged site) first second) (compiles : first.Compiles site key trigger draft)
    (compiles' : second.Compiles site key trigger' draft') : draft.artifact = draft'.artifact := by
  have alike := alike_of_rearranged rearranged key
  obtain ⟨sound, unicast, chosen, text⟩ := compiles.artifact_eq
  obtain ⟨sound', unicast', chosen', text'⟩ := compiles'.artifact_eq
  have same : unicast = unicast' := Except.ok.inj (chosen.symm.trans (alike.unicast.trans chosen'))
  rw [text, text', virtualServers_eq sound, virtualServers_eq sound', alike.router, alike.fwmark, same]
  simp only [alike.servedFor sound']

/-! ### A deployment that is tidied up -/

def declaring (uid version : String) (peers : List Address) (services : List Declared) : LoadBalancer :=
  ⟨⟨"kube-system", "lb"⟩, uid, version, ⟨[.v4 10 0 0 5], "eth0", ⟨50, 100, some peers⟩, 1, services⟩⟩

def udpFirst : List Declared :=
  [⟨.udp, "mh", .empty, .empty⟩, ⟨.tcp, "wrr", .empty, .empty⟩]

def untidy : Deployment :=
  ⟨declaring "u" "1" [.v4 10 0 0 1, .v4 10 0 0 3, .v4 10 0 0 2] udpFirst,
    ⟨[⟨"c", .v4 10 1 0 4, false, .empty⟩, ⟨"b", .v4 10 1 0 3, true, .empty⟩, ⟨"a", .v4 10 1 0 2, true, .empty⟩]⟩⟩

def tidy : Deployment :=
  ⟨declaring "v" "2" [.v4 10 0 0 2, .v4 10 0 0 3] udpFirst.reverse,
    ⟨[⟨"a", .v4 10 1 0 2, true, .empty⟩, ⟨"d", .v4 10 1 0 3, true, .empty⟩]⟩⟩

theorem rearranged_untidy : Relation.EqvGen (Rearranged piped) tidy untidy := by
  refine .trans _ _ _ (.rel _ _ (.identity _ _ "u" "1")) ?_
  refine .trans _ _ _ (.rel _ _ (.services _ _ (List.reverse_perm udpFirst))) ?_
  refine .trans _ _ _ (.rel _ _ (.peers _ _ rfl (.order (.swap (Address.v4 10 0 0 3) (.v4 10 0 0 2) [])))) ?_
  refine .trans _ _ _ (.rel _ _ (.self _ _ rfl rfl)) ?_
  refine .trans _ _ _ (.rel _ _ (.nodes _ (.order (.swap (Node.mk "d" (.v4 10 1 0 3) true .empty) _ _)))) ?_
  refine .trans _ _ _ (.rel _ _ (.renamed _ [] _ ⟨"d", .v4 10 1 0 3, true, .empty⟩ "b")) ?_
  exact .rel _ _ (.idle _ _ ⟨"c", .v4 10 1 0 4, false, .empty⟩ (.inl rfl))

theorem compiles_of_sound {deployment : Deployment} {key : ObjectKey} {trigger : Option String}
    {unicast : Option Unicast} (agrees : Agrees trigger deployment.balancer)
    (faultless : deployment.balancer.spec.problems = [])
    (chosen : deployment.balancer.spec.accepted.unicast site.address = .ok unicast)
    (checked : (deployment.balancer.spec.accepted.router key unicast).problem? = none) :
    ∃ draft, deployment.Compiles site key trigger draft := by
  have accepts : deployment.balancer.spec.validate = .ok deployment.balancer.spec.accepted :=
    if_pos (List.isEmpty_iff.2 faultless)
  refine ⟨_, deployment.balancer.spec.accepted, unicast, ?_, Draft.make_eq_ok_iff.2 ⟨checked, rfl⟩⟩
  simp only [Aim.ofObject, accepts, chosen]
  exact if_pos agrees

/-- The object is declared anew, with its services and peers in order, and with the nodes that are ready. -/
theorem artifact_of_rearranged_tidy :
    Relation.EqvGen (Rearranged piped) tidy untidy ∧
      ∃ draft draft', tidy.Compiles piped ⟨"kube-system", "lb"⟩ (some "v") draft ∧
        untidy.Compiles piped ⟨"kube-system", "lb"⟩ (some "u") draft' ∧ draft.artifact = draft'.artifact := by
  have elected : tidy.balancer.spec.accepted.unicast piped.address =
      .ok (some ⟨.v4 10 0 0 1, [.v4 10 0 0 2, .v4 10 0 0 3]⟩) := by decide +kernel
  have elected' : untidy.balancer.spec.accepted.unicast piped.address =
      .ok (some ⟨.v4 10 0 0 1, [.v4 10 0 0 2, .v4 10 0 0 3]⟩) := by decide +kernel
  obtain ⟨draft, compiles⟩ : ∃ draft, tidy.Compiles piped ⟨"kube-system", "lb"⟩ (some "v") draft :=
    compiles_of_sound rfl (by decide +kernel) elected (by decide +kernel)
  obtain ⟨draft', compiles'⟩ : ∃ draft', untidy.Compiles piped ⟨"kube-system", "lb"⟩ (some "u") draft' :=
    compiles_of_sound rfl (by decide +kernel) elected' (by decide +kernel)
  exact ⟨rearranged_untidy, draft, draft', compiles, compiles',
    artifact_of_rearranged rearranged_untidy compiles compiles'⟩

end Deployment

end Sync

end VipKeeper
