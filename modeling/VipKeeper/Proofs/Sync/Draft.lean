import VipKeeper.Sync.Pass

/-! The configuration that a load balancer calls for in a cluster, whatever was installed before. -/

namespace VipKeeper

/-- A load balancer that declares no more than it must. -/
def LoadBalancer.plain (priority : UInt32) : LoadBalancer :=
  ⟨⟨"kube-system", "lb"⟩, "u", "1",
    ⟨[.v4 10 0 0 5], "eth0", ⟨50, priority, none⟩, 1, [⟨.tcp, "wrr", .empty, .empty⟩]⟩⟩

namespace Sync

/-- The load balancer is validated and given its unicast settings, and then resolved and compiled. -/
def Draft.ofBalancer (site : Site) (key : ObjectKey) (balancer : LoadBalancer) (membership : Membership) :
    Except Failure Draft :=
  match balancer.spec.validate with
  | .error problems => .error (.invalid problems)
  | .ok accepted =>
    match accepted.unicast site.address with
    | .error problems => .error (.invalid problems)
    | .ok unicast => Draft.make site key accepted unicast membership

/-- A trigger that does not name another object lets a pass go on. -/
def Agrees (trigger : Option String) (balancer : LoadBalancer) : Prop :=
  trigger.all (fun uid => decide (uid = balancer.uid)) = true

/-- What the object of a pass can call for. -/
inductive Aimed (site : Site) (trigger : Option String) : Option LoadBalancer → Except Failure Aim → Prop where
  | deleted : Aimed site trigger none (.ok .deleted)
  | stale (balancer : LoadBalancer) (other : ¬ Agrees trigger balancer) :
      Aimed site trigger (some balancer) (.ok .stale)
  | refused (balancer : LoadBalancer) (failure : Failure)
      (same : ∀ key membership, Draft.ofBalancer site key balancer membership = .error failure) :
      Aimed site trigger (some balancer) (.error failure)
  | plan (balancer : LoadBalancer) (accepted : LoadBalancer.Accepted) (unicast : Option Unicast)
      (same : ∀ key membership,
        Draft.ofBalancer site key balancer membership = Draft.make site key accepted unicast membership) :
      Aimed site trigger (some balancer) (.ok (.plan accepted unicast))

theorem aimed (site : Site) (trigger : Option String) (found : Option LoadBalancer) :
    Aimed site trigger found (Aim.ofObject site trigger found) := by
  cases found with
  | none => exact .deleted
  | some balancer =>
    simp only [Aim.ofObject]
    split
    next agrees =>
      split
      next problems refused =>
        exact .refused balancer _ (fun key membership => by simp only [Draft.ofBalancer, refused])
      next accepted validated =>
        split
        next problems refused =>
          exact .refused balancer _
            (fun key membership => by simp only [Draft.ofBalancer, validated, refused])
        next unicast chosen =>
          exact .plan balancer accepted unicast
            (fun key membership => by simp only [Draft.ofBalancer, validated, chosen])
    next other => exact .stale balancer other

theorem ofObject_eq_stale_iff {site : Site} {trigger : Option String} {found : Option LoadBalancer} :
    Aim.ofObject site trigger found = .ok .stale ↔ ∃ balancer, found = some balancer ∧ ¬ Agrees trigger balancer := by
  constructor
  · intro stale
    have aim := aimed site trigger found
    rw [stale] at aim
    cases aim with
    | stale balancer other => exact ⟨balancer, rfl, other⟩
  · rintro ⟨balancer, rfl, other⟩
    exact if_neg other

end Sync

end VipKeeper
