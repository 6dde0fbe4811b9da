import Mathlib.Data.List.Induction
import VipKeeper.Proofs.Artifact.Injective
import VipKeeper.Proofs.Sync.Demand

/-! When a pass leaves the daemon alone: the text of a configuration is compared, and it tells what is demanded. -/

namespace VipKeeper.Sync

/-- Demands with the same text are the same, since the interval of every resolved instance is the default. -/
theorem Demand.draft_inj {site : Site} {key : ObjectKey} {balancer balancer' : LoadBalancer}
    {membership membership' : Membership} {demand demand' : Demand}
    (valid : Settings.reportPathComplaints site.reportPath = [])
    (demanded : ofBalancer site key balancer membership = .ok demand)
    (demanded' : ofBalancer site key balancer' membership' = .ok demand')
    (same : (demand.draft site.reportPath).artifact = (demand'.draft site.reportPath).artifact) : demand = demand' := by
  have first := resolved demanded
  have second := resolved demanded'
  obtain ⟨-, agrees, servers⟩ := Artifact.compile_inj (first.proper valid) (second.proper valid) same
  have routers := agrees.eq (first.interval.trans second.interval.symm)
  cases demand
  cases demand'
  exact congrArg₂ Demand.mk routers servers

theorem Circumstances.Demands.inj {now other : Circumstances} {site : Site} {key : ObjectKey} {demand demand' : Demand}
    (valid : Settings.reportPathComplaints site.reportPath = []) (demands : now.Demands site key demand)
    (demands' : other.Demands site key demand')
    (same : (demand.draft site.reportPath).artifact = (demand'.draft site.reportPath).artifact) : demand = demand' := by
  obtain ⟨_, _, -, -, demanded⟩ := demands
  obtain ⟨_, _, -, -, demanded'⟩ := demands'
  exact Demand.draft_inj valid demanded demanded' same

namespace Reconciler

variable {site : Site} {key : ObjectKey}

/-- What the passes of a run come to. -/
def outcomes (site : Site) (key : ObjectKey) (reconciler : Reconciler) :
    List Circumstances → List (Except Failure Outcome)
  | [] => []
  | now :: rest => (reconciler.pass site key now).1 :: outcomes site key (reconciler.pass site key now).2 rest

theorem after_append (reconciler : Reconciler) (past more : List Circumstances) :
    reconciler.after site key (past ++ more) = (reconciler.after site key past).after site key more :=
  List.foldl_append

theorem outcomes_concat (reconciler : Reconciler) (past : List Circumstances) (now : Circumstances) :
    reconciler.outcomes site key (past ++ [now]) =
      reconciler.outcomes site key past ++ [((reconciler.after site key past).pass site key now).1] := by
  induction past generalizing reconciler with
  | nil => rfl
  | cons first rest ih => simp [outcomes, ih, after]

/-- Some pass of a run has installed what was demanded then, and no later one has installed anything else or given
the object up. -/
def Met (site : Site) (key : ObjectKey) (reconciler : Reconciler) (past : List Circumstances) (demand : Demand) :
    Prop :=
  ∃ before earlier later, past = before ++ earlier :: later ∧ earlier.Demands site key demand ∧
    ((reconciler.after site key before).pass site key earlier).1 = .ok .installed ∧
    ∀ ended ∈ (reconciler.after site key (before ++ [earlier])).outcomes site key later,
      ended ≠ .ok .installed ∧ ended ≠ .ok .deleted

theorem Met.concat {reconciler : Reconciler} {past : List Circumstances} {demand : Demand}
    (met : reconciler.Met site key past demand) (now : Circumstances)
    (other : ((reconciler.after site key past).pass site key now).1 ≠ .ok .installed ∧
      ((reconciler.after site key past).pass site key now).1 ≠ .ok .deleted) :
    reconciler.Met site key (past ++ [now]) demand := by
  obtain ⟨before, earlier, later, rfl, demands, installed, quiet⟩ := met
  refine ⟨before, earlier, later ++ [now], by simp, demands, installed, ?_⟩
  intro ended inside
  rw [outcomes_concat, ← after_append, List.append_assoc, List.singleton_append] at inside
  rcases List.mem_append.1 inside with among | last
  · exact quiet ended among
  · rw [List.mem_singleton.1 last]
    exact other

/-- What is recorded was demanded by the last pass that installed anything. -/
theorem met_of_recorded (daemon : Daemon) (past : List Circumstances) {artifact : String}
    (recorded : ((start daemon).after site key past).record.artifacts.get? key = some artifact) :
    ∃ demand, (start daemon).Met site key past demand ∧ artifact = (demand.draft site.reportPath).artifact := by
  induction past using List.reverseRecOn with
  | nil => simp [after, start, Record.empty] at recorded
  | append_singleton past now ih =>
    rw [after_append] at recorded
    change ((((start daemon).after site key past).pass site key now).2).record.artifacts.get? key = some artifact
      at recorded
    -- The last pass has recorded what it demanded, or it has left the record alone.
    have cases := passed site key ((start daemon).after site key past) now
    generalize ended : ((start daemon).after site key past).pass site key now = result at cases recorded
    cases cases with
    | failed | stale | unchanged | unread =>
      obtain ⟨demand, met, same⟩ := ih recorded
      exact ⟨demand, met.concat now (by simp [ended]), same⟩
    | deleted => simp [Record.drop] at recorded
    | installed draft compiles =>
      obtain ⟨demand, demands, rfl⟩ := compiles.demands
      refine ⟨demand, ⟨past, now, [], rfl, demands, by rw [ended], by simp [outcomes]⟩, ?_⟩
      simpa [Record.note] using recorded.symm

/-- Equal texts mean equal settings and servers. So a pass finds nothing to change only when it demands what the last
installation did, with the object still managed. -/
theorem same_text_same_demand :
    (∀ (reportPath reportPath' : Option String) (router router' : Instance) (servers servers' : List VirtualServer),
      Artifact.Proper reportPath router → Artifact.Proper reportPath' router' →
      Artifact.compile reportPath router servers = Artifact.compile reportPath' router' servers' →
        reportPath = reportPath' ∧ router.Agrees router' ∧ servers = servers') ∧
    ∀ (site : Site) (key : ObjectKey) (daemon : Daemon) (past : List Circumstances) (now : Circumstances),
      Settings.reportPathComplaints site.reportPath = [] →
      (((start daemon).after site key past).pass site key now).1 = .ok .unchanged →
        ∃ demand, now.Demands site key demand ∧ (start daemon).Met site key past demand := by
  refine ⟨fun _ _ _ _ _ _ => Artifact.compile_inj, ?_⟩
  intro site key daemon past now valid ended
  have cases := passed site key ((start daemon).after site key past) now
  generalize ((start daemon).after site key past).pass site key now = result at cases ended
  cases cases with
  | failed | stale | deleted | unread | installed => cases ended
  | unchanged draft compiles holds =>
    obtain ⟨demand, demands, rfl⟩ := compiles.demands
    obtain ⟨earlier, met, same⟩ := met_of_recorded daemon past holds
    have ⟨_, _, _, _, demanded, _⟩ := met
    exact ⟨demand, demands, demands.inj valid demanded same ▸ met⟩

/-- An instance with every optional part. -/
def elected (interval : UInt16) : Instance :=
  ⟨LoadBalancer.instanceName ⟨"kube-system", "lb"⟩, 51, 100, interval, "eth0",
    [.v4 10 0 0 5, .v6 #v[0x2001, 0xdb8, 0, 0, 0, 0, 0, 5]], some ⟨.v4 10 0 0 1, [.v4 10 0 0 2]⟩⟩

def served : List VirtualServer :=
  [⟨7, .tcp, .maglevHashing, [⟨.v4 10 0 1 1, 0, 5⟩, ⟨.v6 #v[0, 0, 0, 0, 0, 0xffff, 0x0a00, 0x0102], 0, 0⟩]⟩,
    ⟨7, .udp, .roundRobin, []⟩]

def reporting : Site :=
  ⟨none, some "/run/vip.fifo"⟩

/-- The first of two passes with one object installs its configuration. -/
def second : Except Failure Outcome × Reconciler :=
  ((start ⟨none, none⟩).after reporting ⟨"kube-system", "lb"⟩ [fetching 100 (.ok ())]).pass reporting
    ⟨"kube-system", "lb"⟩ (fetching 100 (.ok ()))

/-- Fractions of a second between advertisements do not show, and a second pass finds what the first has installed. -/
theorem same_text_same_demand_twice :
    Artifact.Proper reporting.reportPath (elected 150) ∧ Artifact.Proper reporting.reportPath (elected 199) ∧
      Artifact.compile reporting.reportPath (elected 150) served =
        Artifact.compile reporting.reportPath (elected 199) served ∧
      (elected 150).Agrees (elected 199) ∧
      Settings.reportPathComplaints reporting.reportPath = [] ∧ second.1 = .ok .unchanged ∧
      ∃ demand, (fetching 100 (.ok ())).Demands reporting ⟨"kube-system", "lb"⟩ demand ∧
        (start ⟨none, none⟩).Met reporting ⟨"kube-system", "lb"⟩ [fetching 100 (.ok ())] demand := by
  have valid : Settings.reportPathComplaints reporting.reportPath = [] := by decide +kernel
  have interface : Interface.isName "eth0" = true := by decide +kernel
  have proper (interval : UInt16) : Artifact.Proper reporting.reportPath (elected interval) :=
    ⟨valid, ⟨_, rfl⟩, interface⟩
  have same : Artifact.compile reporting.reportPath (elected 150) served =
      Artifact.compile reporting.reportPath (elected 199) served := rfl
  have agrees := (same_text_same_demand.1 _ _ _ _ _ _ (proper 150) (proper 199) same).2.1
  have ended : second.1 = .ok .unchanged := by decide +kernel
  exact ⟨proper 150, proper 199, same, agrees, valid, ended, same_text_same_demand.2 _ _ ⟨none, none⟩ _ _ valid ended⟩

end Reconciler

end VipKeeper.Sync
