import VipKeeper.Proofs.Artifact.Legible
import VipKeeper.Proofs.LoadBalancer.Acceptance
import VipKeeper.Proofs.Sync.Installation

/-! What a load balancer demands of the daemon in a cluster, before it is put into words. -/

namespace VipKeeper.Sync

/-- A router instance and the virtual servers that it serves. -/
structure Demand where
  router : Instance
  servers : List VirtualServer
  deriving DecidableEq

namespace Demand

/-- The load balancer is validated and given its unicast settings, and then resolved. -/
def ofBalancer (site : Site) (key : ObjectKey) (balancer : LoadBalancer) (membership : Membership) :
    Except Failure Demand :=
  match balancer.spec.validate with
  | .error problems => .error (.invalid problems)
  | .ok accepted =>
    match accepted.unicast site.address with
    | .error problems => .error (.invalid problems)
    | .ok unicast =>
      match (accepted.router key unicast).problem? with
      | some problem => .error (.invalid [.router problem])
      | none => .ok ⟨accepted.router key unicast, accepted.virtualServers membership⟩

/-- The configuration that meets a demand. -/
def draft (demand : Demand) (reportPath : Option String) : Draft :=
  ⟨Artifact.compile reportPath demand.router demand.servers, demand.router.addresses⟩

variable {site : Site} {key : ObjectKey} {balancer : LoadBalancer} {membership : Membership} {demand : Demand}

/-- Passes compile what is demanded, and nothing else. -/
theorem ofBalancer_map (site : Site) (key : ObjectKey) (balancer : LoadBalancer) (membership : Membership) :
    Draft.ofBalancer site key balancer membership =
      (ofBalancer site key balancer membership).map (fun demand => demand.draft site.reportPath) := by
  unfold Draft.ofBalancer ofBalancer
  cases balancer.spec.validate with
  | error problems => rfl
  | ok accepted =>
    dsimp only
    cases accepted.unicast site.address with
    | error problems => rfl
    | ok unicast =>
      dsimp only [Draft.make]
      cases (accepted.router key unicast).problem? with
      | some problem => rfl
      | none => rfl

/-- What every demand has from the resolution and its checks. -/
structure Resolved (key : ObjectKey) (balancer : LoadBalancer) (router : Instance) : Prop where
  name : router.name = LoadBalancer.instanceName key
  interval : router.advertInterval = Instance.defaultAdvertInterval
  interface : Interface.isName router.interface = true
  addresses : router.addresses = balancer.spec.addresses

theorem isName_of_problem? {router : Instance} (sound : router.problem? = none) :
    Interface.isName router.interface = true := by
  unfold Instance.problem? at sound
  split_ifs at sound with first second third fourth
  simpa using fourth

theorem resolved (demanded : ofBalancer site key balancer membership = .ok demand) :
    Resolved key balancer demand.router := by
  unfold ofBalancer at demanded
  cases validated : balancer.spec.validate with
  | error problems => simp [validated] at demanded
  | ok accepted =>
    obtain ⟨-, accepts⟩ := LoadBalancer.Spec.validate_eq_ok_iff.1 validated
    cases chosen : accepted.unicast site.address with
    | error problems => simp [validated, chosen] at demanded
    | ok unicast =>
      cases checked : (accepted.router key unicast).problem? with
      | some problem => simp [validated, chosen, checked] at demanded
      | none =>
        simp only [validated, chosen, checked] at demanded
        cases demanded
        exact ⟨rfl, rfl, isName_of_problem? checked, by rw [accepts]; rfl⟩

theorem Resolved.proper {router : Instance} (resolved : Resolved key balancer router) {reportPath : Option String}
    (valid : Settings.reportPathComplaints reportPath = []) : Artifact.Proper reportPath router :=
  ⟨valid, ⟨key, resolved.name⟩, resolved.interface⟩

end Demand

/-- A pass meets a demand with the object and the membership that it fetches. -/
def Circumstances.Demands (now : Circumstances) (site : Site) (key : ObjectKey) (demand : Demand) : Prop :=
  ∃ balancer membership, now.object = .ok (some balancer) ∧ now.membership = .ok membership ∧
    Demand.ofBalancer site key balancer membership = .ok demand

theorem Circumstances.Compiles.demands {now : Circumstances} {site : Site} {key : ObjectKey} {draft : Draft}
    (compiles : now.Compiles site key draft) :
    ∃ demand, now.Demands site key demand ∧ draft = demand.draft site.reportPath := by
  obtain ⟨balancer, membership, object, nodes, drafted⟩ := compiles
  rw [Demand.ofBalancer_map] at drafted
  cases demanded : Demand.ofBalancer site key balancer membership with
  | error failure => simp [demanded, Except.map] at drafted
  | ok demand =>
    rw [demanded] at drafted
    exact ⟨demand, ⟨balancer, membership, object, nodes, demanded⟩, (Except.ok.inj drafted).symm⟩

end VipKeeper.Sync
