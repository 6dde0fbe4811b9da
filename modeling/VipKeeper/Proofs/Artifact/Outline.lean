import VipKeeper.Proofs.LoadBalancer.Services
import VipKeeper.Proofs.Sync.Demand

/-! The outline of a configuration: its statements and blocks without the blank lines between them.

What the configuration for a load balancer says is written down here once more, from the declaration alone. The
compiled text is read as that and nothing else, whatever stands in the names, the interface and the path. -/

namespace VipKeeper

namespace Item

mutual

def solid : Item → List Item
  | statement words => [statement words]
  | block header items => [block header (solidOf items)]
  | gap => []

def solidOf : List Item → List Item
  | [] => []
  | item :: rest => solid item ++ solidOf rest

end

/-- Reads a text to which blank lines mean nothing. -/
def outline? (text : String) : Option (List Item) :=
  (read? text).map solidOf

theorem solidOf_append (items more : List Item) : solidOf (items ++ more) = solidOf items ++ solidOf more := by
  induction items with
  | nil => rfl
  | cons item rest ih => rw [List.cons_append, solidOf, solidOf, ih, List.append_assoc]

theorem solidOf_statements {α : Type} (words : α → String) (values : List α) :
    solidOf (values.map (fun value => .statement (words value))) = values.map (fun value => .statement (words value)) := by
  induction values with
  | nil => rfl
  | cons value rest ih => simp [solidOf, solid, ih]

theorem solidOf_spaced {α : Type} (block : α → Item) (values : List α) :
    solidOf (values.flatMap (fun value => [.gap, block value])) = values.flatMap (fun value => solid (block value)) := by
  induction values with
  | nil => rfl
  | cons value rest ih => simp [solidOf, solid, ih]

section

variable {words header : String → Prop}

mutual

theorem eachOf_solid : (item : Item) → Each words header item → EachOf words header (solid item)
  | .statement _, each => ⟨each, trivial⟩
  | .gap, _ => trivial
  | .block _ items, each => ⟨⟨each.1, eachOf_solidOf items each.2⟩, trivial⟩

theorem eachOf_solidOf : (items : List Item) → EachOf words header items → EachOf words header (solidOf items)
  | [], _ => trivial
  | item :: rest, each => eachOf_append.2 ⟨eachOf_solid item each.1, eachOf_solidOf rest each.2⟩

end

end

end Item

/-! ### What a declaration asks for -/

namespace LoadBalancer

def stated (keyword words : String) : Item :=
  .statement (keyword ++ " " ++ words)

def listed (header : String) (addresses : List Address) : Item :=
  .block header (addresses.map (fun address => .statement address.text))

namespace Declared

/-- The ready nodes with the labels of a service, by address. -/
def nodes (declared : Declared) (membership : Membership) : List Address :=
  Ordered.distinct ((membership.nodes.filter (fun node => node.ready && node.carries declared.selector)).map Node.address)

def server (declared : Declared) (address : Address) : Item :=
  .block ("real_server" ++ " " ++ address.text ++ " " ++ "0") [
    stated "weight" (toString ((declared.weights.get? address).getD 1).toNat),
    .block "TCP_CHECK" [.statement "connect_port 80", .statement "connect_timeout 3"]]

/-- The scheduler is named in lower case and without white space around it. -/
def asked (declared : Declared) (fwmark : UInt32) (membership : Membership) : Item :=
  .block ("virtual_server fwmark" ++ " " ++ toString fwmark.toNat) (
    [.statement "delay_loop 5",
      stated "lvs_sched" (String.ofList ((Text.trim declared.scheduler).toList.map Char.toLower)),
      .statement "lvs_method DR",
      .statement "persistence_timeout 360",
      stated "protocol" declared.protocol.name] ++
    (declared.nodes membership).map declared.server)

end Declared

namespace Spec

/-- The other peers by address, if any are declared. -/
def electors (spec : Spec) (source : Option Address) : List Item :=
  match spec.election.peers, source with
  | some peers, some source =>
    [stated "unicast_src_ip" source.text,
      listed "unicast_peer" (Ordered.distinct (peers.filter (fun peer => !decide (peer = source))))]
  | _, _ => []

def instanceAsked (spec : Spec) (key : ObjectKey) (source : Option Address) : Item :=
  .block ("vrrp_instance" ++ " " ++ instanceName key) (
    [.statement "state BACKUP",
      stated "interface" spec.interface,
      stated "virtual_router_id" (toString spec.election.routerId.toNat),
      stated "priority" (toString spec.election.priority.toNat),
      .statement "advert_int 1",
      .statement "nopreempt",
      .block "track_interface" [.statement spec.interface]] ++
    spec.electors source ++
    [listed "virtual_ipaddress" spec.addresses])

/-- One instance, and then the declared services, that of TCP first. -/
def asked (spec : Spec) (site : Sync.Site) (key : ObjectKey) (membership : Membership) : List Item :=
  site.reportPath.toList.map (fun path => .block "global_defs" [stated "notify_fifo" path]) ++
    spec.instanceAsked key site.address ::
    [Protocol.tcp, .udp].flatMap (fun protocol =>
      (spec.declaredFor protocol).map (fun declared => declared.asked spec.fwmark membership))

end Spec

end LoadBalancer

/-! ### What is compiled -/

namespace Artifact

open Item (solid solidOf solidOf_append solidOf_statements solidOf_spaced)
open LoadBalancer (stated listed)

theorem setting_eq (keyword : String) (n : Nat) : setting keyword n = stated keyword (toString n) := rfl

theorem solid_realServerBlock (declared : LoadBalancer.Declared) (address : Address) :
    solid (realServerBlock ⟨address, LoadBalancer.servicePort, (declared.weights.get? address).getD 1⟩) =
      [declared.server address] := by
  simp only [realServerBlock, solid, solidOf, setting_eq, List.append_nil]
  rfl

/-- A known scheduler is named as it was declared, up to case and white space. -/
theorem name_of_ofName? {text : String} {scheduler : Scheduler} (found : Scheduler.ofName? text = some scheduler) :
    scheduler.name = String.ofList ((Text.trim text).toList.map Char.toLower) := by
  rw [← Scheduler.toList_name_of_ofName? found, String.ofList_toList]

theorem solid_virtualServerBlock {spec : LoadBalancer.Spec} {declared : LoadBalancer.Declared}
    {service : LoadBalancer.Service} (known : declared.service? = some service) (membership : Membership) :
    solid (virtualServerBlock (spec.accepted.virtualServer membership service)) =
      [declared.asked spec.fwmark membership] := by
  obtain ⟨scheduler, found, rfl⟩ := Option.map_eq_some_iff.1 known
  have servers : solidOf (((LoadBalancer.Service.mk declared.protocol scheduler declared.selector
      declared.weights).realServers membership).flatMap (fun real => [.gap, realServerBlock real])) =
        (declared.nodes membership).map declared.server := by
    rw [solidOf_spaced, LoadBalancer.Service.realServers, List.flatMap_map, List.map_eq_flatMap]
    exact List.flatMap_congr (fun address _ => solid_realServerBlock declared address)
  have settings : solidOf [setting "delay_loop" delayLoop, .statement ("lvs_sched " ++ scheduler.name),
      .statement "lvs_method DR", setting "persistence_timeout" persistenceTimeout,
      .statement ("protocol " ++ declared.protocol.name)] =
        [.statement "delay_loop 5",
          stated "lvs_sched" (String.ofList ((Text.trim declared.scheduler).toList.map Char.toLower)),
          .statement "lvs_method DR", .statement "persistence_timeout 360",
          stated "protocol" declared.protocol.name] := by
    rw [← name_of_ofName? found]
    rfl
  rw [virtualServerBlock, solid, solidOf_append, LoadBalancer.Accepted.virtualServer, servers, settings]
  rfl

/-- An accepted specification gets unicast settings if and only if it declares peers. -/
theorem solidOf_unicastItems {spec : LoadBalancer.Spec} {source : Option Address} {unicast : Option Unicast}
    (chosen : spec.accepted.unicast source = .ok unicast) :
    solidOf (unicastItems unicast) = spec.electors source := by
  have peers : spec.accepted.peers = spec.election.peers := rfl
  unfold LoadBalancer.Accepted.unicast at chosen
  rw [peers] at chosen
  unfold LoadBalancer.Spec.electors
  cases declared : spec.election.peers with
  | none =>
    rw [declared] at chosen
    cases chosen
    rfl
  | some peers =>
    cases source with
    | none => simp [declared] at chosen
    | some source =>
      rw [declared] at chosen
      cases chosen
      simp only [unicastItems, Unicast.among, solidOf, solid, addressList, solidOf_statements, List.append_nil,
        List.singleton_append]
      rfl

theorem solid_instanceBlock {spec : LoadBalancer.Spec} (sound : spec.Sound) (key : ObjectKey)
    {source : Option Address} {unicast : Option Unicast} (chosen : spec.accepted.unicast source = .ok unicast) :
    solid (instanceBlock (spec.accepted.router key unicast)) = [spec.instanceAsked key source] := by
  -- The numbers were checked, so that none of them is cut off in a byte.
  have routerId : spec.election.routerId.toUInt8.toNat = spec.election.routerId.toNat := by
    have small := UInt32.le_iff_toNat_le.1 sound.routerId
    rw [UInt32.toNat_toUInt8]
    exact Nat.mod_eq_of_lt (Nat.lt_succ_of_le small)
  have priority : spec.election.priority.toUInt8.toNat = spec.election.priority.toNat := by
    have small := UInt32.le_iff_toNat_le.1 sound.priority
    rw [UInt32.toNat_toUInt8]
    exact Nat.mod_eq_of_lt (Nat.lt_of_le_of_lt small (by decide))
  have settings : solidOf [.statement "state BACKUP", .statement ("interface " ++ spec.interface),
      setting "virtual_router_id" spec.election.routerId.toUInt8.toNat,
      setting "priority" spec.election.priority.toUInt8.toNat,
      setting "advert_int" (spec.accepted.router key unicast).advertSeconds, .statement "nopreempt",
      .block "track_interface" [.statement spec.interface]] =
        [.statement "state BACKUP", stated "interface" spec.interface,
          stated "virtual_router_id" (toString spec.election.routerId.toNat),
          stated "priority" (toString spec.election.priority.toNat), .statement "advert_int 1", .statement "nopreempt",
          .block "track_interface" [.statement spec.interface]] := by
    have second : (spec.accepted.router key unicast).advertSeconds = 1 := by
      change max 1 (Instance.defaultAdvertInterval.toNat / 100) = 1
      decide
    rw [routerId, priority, second]
    rfl
  have addresses : solidOf [.block "virtual_ipaddress" (addressList spec.addresses)] =
      [listed "virtual_ipaddress" spec.addresses] := by
    simp only [solidOf, solid, addressList, solidOf_statements, List.append_nil]
    rfl
  have parts := solidOf_unicastItems chosen
  rw [instanceBlock, solid, solidOf_append, solidOf_append]
  simp only [LoadBalancer.Accepted.router, LoadBalancer.Spec.accepted] at settings ⊢
  rw [settings, parts, addresses]
  rfl

/-- The blocks of the services come in the order of the protocols, whatever the order of the declarations. -/
theorem solidOf_virtualServers {spec : LoadBalancer.Spec} (sound : spec.Sound) (membership : Membership) :
    solidOf ((spec.accepted.virtualServers membership).flatMap (fun server => [.gap, virtualServerBlock server])) =
      [Protocol.tcp, .udp].flatMap (fun protocol =>
        (spec.declaredFor protocol).map (fun declared => declared.asked spec.fwmark membership)) := by
  have known (services : List LoadBalancer.Declared) (all : ∀ declared ∈ services, declared ∈ spec.services) :
      (services.filterMap LoadBalancer.Declared.service?).flatMap (fun service =>
        solid (virtualServerBlock (spec.accepted.virtualServer membership service))) =
        services.map (fun declared => declared.asked spec.fwmark membership) := by
    induction services with
    | nil => rfl
    | cons declared rest ih =>
      -- Every declared service was accepted, so that none is left out.
      obtain ⟨service, known⟩ := sound.known declared (all declared List.mem_cons_self)
      rw [List.filterMap_cons_some known, List.flatMap_cons, solid_virtualServerBlock known,
        ih (fun other inside => all other (List.mem_cons_of_mem _ inside))]
      rfl
  rw [solidOf_spaced, sound.virtualServers_eq, List.flatMap_assoc]
  refine List.flatMap_congr (fun protocol _ => ?_)
  rw [List.flatMap_map]
  exact known _ (fun declared inside => (List.mem_filter.1 inside).1)

theorem solidOf_items {spec : LoadBalancer.Spec} (sound : spec.Sound) (site : Sync.Site) (key : ObjectKey)
    {unicast : Option Unicast} (chosen : spec.accepted.unicast site.address = .ok unicast) (membership : Membership) :
    solidOf (items site.reportPath (spec.accepted.router key unicast) (spec.accepted.virtualServers membership)) =
      spec.asked site key membership := by
  have report : solidOf (reportItems site.reportPath) =
      site.reportPath.toList.map (fun path => .block "global_defs" [stated "notify_fifo" path]) := by
    cases site.reportPath <;> rfl
  rw [items, solidOf_append, solidOf, report, solid_instanceBlock sound key chosen, solidOf_virtualServers sound]
  rfl

end Artifact

namespace Sync

/-- What the stages of a pass have found out when they compile. -/
structure Planned (site : Site) (balancer : LoadBalancer) (accepted : LoadBalancer.Accepted)
    (unicast : Option Unicast) : Prop where
  sound : balancer.spec.Sound
  accepts : accepted = balancer.spec.accepted
  chosen : accepted.unicast site.address = .ok unicast

theorem planned {site : Site} {trigger : Option String} {balancer : LoadBalancer}
    {accepted : LoadBalancer.Accepted} {unicast : Option Unicast}
    (aimed : Aim.ofObject site trigger (some balancer) = .ok (.plan accepted unicast)) :
    Planned site balancer accepted unicast := by
  simp only [Aim.ofObject] at aimed
  split_ifs at aimed
  case neg => cases aimed
  cases validated : balancer.spec.validate with
  | error problems => simp [validated] at aimed
  | ok given =>
    rw [validated] at aimed
    cases chosen : given.unicast site.address with
    | error problems => simp [chosen] at aimed
    | ok settings =>
      simp only [chosen, Except.ok.injEq, Aim.plan.injEq] at aimed
      obtain ⟨rfl, rfl⟩ := aimed
      obtain ⟨acceptable, same⟩ := LoadBalancer.Spec.validate_eq_ok_iff.1 validated
      exact ⟨acceptable.sound, same, chosen⟩

theorem Draft.make_eq_ok_iff {site : Site} {key : ObjectKey} {accepted : LoadBalancer.Accepted}
    {unicast : Option Unicast} {membership : Membership} {draft : Draft} :
    Draft.make site key accepted unicast membership = .ok draft ↔
      (accepted.router key unicast).problem? = none ∧
        ⟨Artifact.compile site.reportPath (accepted.router key unicast) (accepted.virtualServers membership),
          accepted.addresses⟩ = draft := by
  unfold Draft.make
  cases checked : (accepted.router key unicast).problem? <;> simp [checked]

/-- A compiled configuration is read as what its declaration asks for and as nothing besides, blank lines apart; and it
has a source address for the election wherever peers are declared. -/
theorem Draft.outline_eq_asked {site : Site} {key : ObjectKey} {trigger : Option String} {balancer : LoadBalancer}
    {membership : Membership} {accepted : LoadBalancer.Accepted} {unicast : Option Unicast} {draft : Draft}
    (valid : Settings.reportPathComplaints site.reportPath = [])
    (aimed : Aim.ofObject site trigger (some balancer) = .ok (.plan accepted unicast))
    (made : Draft.make site key accepted unicast membership = .ok draft) :
    Item.outline? draft.artifact = some (balancer.spec.asked site key membership) ∧
      Item.AllPlain (balancer.spec.asked site key membership) ∧
      (balancer.spec.election.peers.isSome → site.address.isSome) := by
  obtain ⟨sound, rfl, chosen⟩ := planned aimed
  have outline := Artifact.solidOf_items sound site key chosen membership
  obtain ⟨checked, rfl⟩ := Draft.make_eq_ok_iff.1 made
  have proper : Artifact.Proper site.reportPath (balancer.spec.accepted.router key unicast) :=
    ⟨valid, ⟨key, rfl⟩, Demand.isName_of_problem? checked⟩
  have read := Artifact.read?_compile proper (balancer.spec.accepted.virtualServers membership)
  refine ⟨?_, ?_, ?_⟩
  · rw [Item.outline?, read, ← outline]
    rfl
  · rw [← outline]
    exact Item.eachOf_solidOf _ (Artifact.allPlain_items proper _)
  · intro declared
    cases source : site.address with
    | some source => rfl
    | none =>
      obtain ⟨peers, named⟩ := Option.isSome_iff_exists.1 declared
      have same : balancer.spec.accepted.peers = some peers := named
      simp [LoadBalancer.Accepted.unicast, same, source] at chosen

/-- Names with braces and line breaks, declared in no order. -/
def unruly : LoadBalancer :=
  ⟨⟨"kube \x7d", "lb\n\x7b"⟩, "u", "1",
    ⟨[.v4 10 0 0 5, .v4 10 0 0 4], "eth0.100", ⟨50, 100, some [.v4 10 0 0 2, .v4 10 0 0 1]⟩, 1,
      [⟨.udp, "\n MH ", .empty, .empty⟩, ⟨.tcp, "wrr", .empty, .ofList [(.v4 10 0 0 7, 0)]⟩]⟩⟩

def piped : Site :=
  ⟨some (.v4 10 0 0 1), some "/run/lb"⟩

theorem Draft.outline_eq_asked_unruly :
    Settings.reportPathComplaints piped.reportPath = [] ∧
      ∃ unicast draft, Aim.ofObject piped (some "u") (some unruly) = .ok (.plan unruly.spec.accepted unicast) ∧
        Draft.make piped unruly.key unruly.spec.accepted unicast ⟨[⟨"n", .v4 10 0 0 7, true, .empty⟩]⟩ = .ok draft ∧
        Item.outline? draft.artifact =
          some (unruly.spec.asked piped unruly.key ⟨[⟨"n", .v4 10 0 0 7, true, .empty⟩]⟩) := by
  have valid : Settings.reportPathComplaints piped.reportPath = [] := by decide +kernel
  have accepts : unruly.spec.validate = .ok unruly.spec.accepted := if_pos (by decide +kernel)
  have chosen : unruly.spec.accepted.unicast piped.address = .ok (some ⟨.v4 10 0 0 1, [.v4 10 0 0 2]⟩) := by
    decide +kernel
  have aimed : Aim.ofObject piped (some "u") (some unruly) =
      .ok (.plan unruly.spec.accepted (some ⟨.v4 10 0 0 1, [.v4 10 0 0 2]⟩)) := by
    simp only [Aim.ofObject, accepts, chosen]
    rfl
  obtain ⟨draft, made⟩ : ∃ draft, Draft.make piped unruly.key unruly.spec.accepted
      (some ⟨.v4 10 0 0 1, [.v4 10 0 0 2]⟩) ⟨[⟨"n", .v4 10 0 0 7, true, .empty⟩]⟩ = .ok draft :=
    ⟨_, Draft.make_eq_ok_iff.2 ⟨by decide +kernel, rfl⟩⟩
  exact ⟨valid, _, _, aimed, made, (Draft.outline_eq_asked valid aimed made).1⟩

end Sync

end VipKeeper
