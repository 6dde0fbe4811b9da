import VipKeeper.Proofs.Artifact.Addresses
import VipKeeper.Proofs.Sync.Demand

/-! The published addresses over a run of passes: those of the configuration that is recorded and that the daemon runs
with. -/

namespace VipKeeper.Sync

theorem Demand.virtualAddresses?_draft {site : Site} {key : ObjectKey} {balancer : LoadBalancer}
    {membership : Membership} {demand : Demand} (demanded : ofBalancer site key balancer membership = .ok demand)
    (reportPath : Option String) :
    Artifact.virtualAddresses? (demand.draft reportPath).artifact = some balancer.spec.addresses := by
  have router := resolved demanded
  rw [← router.addresses]
  exact Artifact.virtualAddresses?_compile ⟨key, router.name⟩ router.interface reportPath demand.servers

/-- The text and the addresses of a configuration both come from the object that the pass has fetched. -/
theorem Circumstances.Compiles.addresses {now : Circumstances} {site : Site} {key : ObjectKey} {draft : Draft}
    (compiles : now.Compiles site key draft) :
    ∃ balancer, now.object = .ok (some balancer) ∧ draft.addresses = balancer.spec.addresses ∧
      Artifact.virtualAddresses? draft.artifact = some balancer.spec.addresses := by
  obtain ⟨demand, ⟨balancer, membership, object, -, demanded⟩, rfl⟩ := compiles.demands
  exact ⟨balancer, object, (Demand.resolved demanded).addresses, Demand.virtualAddresses?_draft demanded site.reportPath⟩

namespace Reconciler

/-- No configuration is recorded and no address published, or the daemon has last read the recorded configuration and
its addresses are published. -/
def Publishes (key : ObjectKey) (reconciler : Reconciler) : Prop :=
  (reconciler.record.artifacts.get? key = none ∧ reconciler.record.owned = []) ∨
    ∃ artifact, reconciler.record.artifacts.get? key = some artifact ∧ reconciler.daemon.read = some artifact ∧
      Artifact.virtualAddresses? artifact = some reconciler.record.owned

theorem Publishes.start (key : ObjectKey) (daemon : Daemon) : (Reconciler.start daemon).Publishes key :=
  .inl ⟨by simp [Reconciler.start, Record.empty], rfl⟩

theorem Publishes.pass {key : ObjectKey} {reconciler : Reconciler} (publishes : reconciler.Publishes key) (site : Site)
    (now : Circumstances) : (reconciler.pass site key now).2.Publishes key := by
  have cases := passed site key reconciler now
  generalize reconciler.pass site key now = ended at cases
  cases cases with
  | failed | stale | unchanged | unread => exact publishes
  | deleted => exact .inl ⟨by simp [Record.drop], rfl⟩
  | installed draft compiles =>
    obtain ⟨balancer, -, owned, listed⟩ := compiles.addresses
    refine .inr ⟨draft.artifact, by simp [Record.note], rfl, ?_⟩
    rw [listed, ← owned]
    rfl

theorem Publishes.after {key : ObjectKey} {reconciler : Reconciler} (publishes : reconciler.Publishes key) (site : Site)
    (past : List Circumstances) : (reconciler.after site key past).Publishes key := by
  induction past generalizing reconciler with
  | nil => exact publishes
  | cons now rest ih => exact ih (publishes.pass site now)

/-- Between passes the published addresses are those of the recorded configuration, which the daemon has read last; and
a pass that configures the daemon, or finds it configured, leaves the addresses of its object published. -/
theorem published_addresses (site : Site) (key : ObjectKey) (daemon : Daemon) (past : List Circumstances) :
    ((start daemon).after site key past).Publishes key ∧
      ∀ now outcome, (outcome = .installed ∨ outcome = .unchanged) →
        (((start daemon).after site key past).pass site key now).1 = .ok outcome →
          ∃ balancer, now.object = .ok (some balancer) ∧
            (((start daemon).after site key past).pass site key now).2.record.owned = balancer.spec.addresses := by
  have publishes := (Publishes.start key daemon).after site past
  refine ⟨publishes, ?_⟩
  intro now outcome configured ended
  generalize (start daemon).after site key past = reconciler at ended publishes ⊢
  have cases := passed site key reconciler now
  generalize reconciler.pass site key now = result at cases ended ⊢
  cases cases with
  | failed | unread => cases ended
  | stale | deleted =>
    cases ended
    exact absurd configured (by decide)
  | installed draft compiles =>
    obtain ⟨balancer, object, owned, -⟩ := compiles.addresses
    exact ⟨balancer, object, owned⟩
  | unchanged draft compiles holds =>
    obtain ⟨balancer, object, -, listed⟩ := compiles.addresses
    refine ⟨balancer, object, ?_⟩
    -- The object may differ from the one that was installed, but the text is the same.
    rcases publishes with ⟨empty, -⟩ | ⟨artifact, recorded, -, published⟩
    · rw [holds] at empty
      cases empty
    · rw [holds] at recorded
      cases recorded
      rw [listed] at published
      exact (Option.some.inj published).symm

/-- Passes of which the second loses its reload. -/
def disturbed : List Circumstances :=
  [fetching 100 (.ok ()), fetching 101 (.error (.panic "lost"))]

def recovered : Except Failure Outcome × Reconciler :=
  ((start ⟨none, none⟩).after ⟨none, none⟩ ⟨"kube-system", "lb"⟩ disturbed).pass ⟨none, none⟩ ⟨"kube-system", "lb"⟩
    (fetching 100 (.ok ()))

theorem published_addresses_afterFailure :
    (Outcome.unchanged = .installed ∨ Outcome.unchanged = .unchanged) ∧ recovered.1 = .ok .unchanged ∧
      ∃ balancer, (fetching 100 (.ok ())).object = .ok (some balancer) ∧
        recovered.2.record.owned = balancer.spec.addresses := by
  have ended : recovered.1 = .ok .unchanged := by decide +kernel
  have published := (published_addresses ⟨none, none⟩ ⟨"kube-system", "lb"⟩ ⟨none, none⟩ disturbed).2
    (fetching 100 (.ok ())) .unchanged (.inr rfl) ended
  exact ⟨.inr rfl, ended, published⟩

end Reconciler

end VipKeeper.Sync
