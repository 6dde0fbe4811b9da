import Mathlib.Control.Monad.Basic
import VipKeeper.Proofs.Sync.Draft
import VipKeeper.Proofs.Table

/-! The configuration file over a run of passes.

The file is replaced before the daemon is told to read it, and a configuration is recorded only when the daemon
has read it. So the record follows what the daemon has read, and not the file. -/

namespace VipKeeper.Sync

/-- What triggers a pass, and how each of its calls ends. -/
structure Circumstances where
  trigger : Option String
  object : Except Mishap (Option LoadBalancer)
  membership : Except Mishap Membership
  install : Except Mishap Unit
  reload : Except Mishap Unit

/-- The text of the configuration file, and the text that the daemon has last read from it. -/
structure Daemon where
  file : Option String
  read : Option String

namespace Circumstances

/-- Installing replaces the file, and reloading makes the daemon read it, unless they fail. -/
def surroundings (now : Circumstances) : Surroundings (StateM Daemon) where
  object _ := pure now.object
  membership := pure now.membership
  install text := do
    match now.install with
    | .error mishap => return .error mishap
    | .ok () =>
      modify ({ · with file := some text })
      return .ok ()
  reload := do
    match now.reload with
    | .error mishap => return .error mishap
    | .ok () =>
      modify (fun daemon => { daemon with read := daemon.file })
      return .ok ()

@[simp] theorem surroundings_object (now : Circumstances) (key : ObjectKey) :
    now.surroundings.object key = pure now.object := rfl

@[simp] theorem surroundings_membership (now : Circumstances) :
    now.surroundings.membership = pure now.membership := rfl

/-- A pass compiles a configuration from the object and the membership that it fetches. -/
def Compiles (now : Circumstances) (site : Site) (key : ObjectKey) (draft : Draft) : Prop :=
  ∃ balancer membership, now.object = .ok (some balancer) ∧ now.membership = .ok membership ∧
    Draft.ofBalancer site key balancer membership = .ok draft

end Circumstances

/-- Passes for one key: the record that they keep, and the daemon that they configure. -/
structure Reconciler where
  record : Record
  daemon : Daemon

namespace Reconciler

/-- Nothing is recorded at first, whatever the daemon already runs with. -/
def start (daemon : Daemon) : Reconciler :=
  ⟨.empty, daemon⟩

/-- A result with the record and the daemon that it leaves. -/
def result (ended : (Record × Except Failure Outcome) × Daemon) : Except Failure Outcome × Reconciler :=
  (ended.1.2, ⟨ended.1.1, ended.2⟩)

def pass (site : Site) (key : ObjectKey) (reconciler : Reconciler) (now : Circumstances) :
    Except Failure Outcome × Reconciler :=
  result ((Sync.pass now.surroundings site reconciler.record key now.trigger).run reconciler.daemon)

def after (site : Site) (key : ObjectKey) (reconciler : Reconciler) (past : List Circumstances) : Reconciler :=
  past.foldl (fun reconciler now => (reconciler.pass site key now).2) reconciler

/-! ### One pass -/

/-- What a pass can come to. -/
inductive Passed (site : Site) (key : ObjectKey) (reconciler : Reconciler) (now : Circumstances) :
    Except Failure Outcome × Reconciler → Prop where
  | failed (failure : Failure) : Passed site key reconciler now (.error failure, reconciler)
  | stale : Passed site key reconciler now (.ok .stale, reconciler)
  | deleted : Passed site key reconciler now (.ok .deleted, { reconciler with record := reconciler.record.drop key })
  | unchanged (draft : Draft) (compiles : now.Compiles site key draft)
      (holds : reconciler.record.artifacts.get? key = some draft.artifact) :
      Passed site key reconciler now (.ok .unchanged, reconciler)
  | unread (draft : Draft) (failure : Failure) :
      Passed site key reconciler now
        (.error failure, { reconciler with daemon := { reconciler.daemon with file := some draft.artifact } })
  | installed (draft : Draft) (compiles : now.Compiles site key draft) :
      Passed site key reconciler now
        (.ok .installed, ⟨reconciler.record.note key draft, ⟨some draft.artifact, some draft.artifact⟩⟩)

/-- A configuration is recorded only if it was installed and read. -/
theorem concluded (site : Site) (key : ObjectKey) (reconciler : Reconciler) (now : Circumstances) (draft : Draft)
    (compiles : now.Compiles site key draft) :
    Passed site key reconciler now
      (result ((conclude now.surroundings reconciler.record key draft).run reconciler.daemon)) := by
  unfold conclude Circumstances.surroundings
  cases install : now.install with
  | error mishap => simpa using .failed _
  | ok =>
    cases reload : now.reload with
    | error mishap => simpa using .unread draft _
    | ok => simpa using .installed draft compiles

theorem passed (site : Site) (key : ObjectKey) (reconciler : Reconciler) (now : Circumstances) :
    Passed site key reconciler now (reconciler.pass site key now) := by
  unfold pass Sync.pass prepare
  cases object : now.object with
  | error mishap => simpa [object] using .failed _
  | ok found =>
    have aim := aimed site now.trigger found
    generalize aims : Aim.ofObject site now.trigger found = result at aim
    cases aim with
    | deleted => simpa [object, aims] using .deleted
    | stale balancer other => simpa [object, aims] using .stale
    | refused balancer failure same => simpa [object, aims] using .failed failure
    | plan balancer accepted unicast same =>
      cases membership : now.membership with
      | error mishap => simpa [object, aims, prepareDraft, membership] using .failed _
      | ok nodes =>
        cases made : Draft.make site key accepted unicast nodes with
        | error failure => simpa [object, aims, prepareDraft, membership, made] using .failed failure
        | ok draft =>
          have compiles : now.Compiles site key draft :=
            ⟨balancer, nodes, object, membership, (same key nodes).trans made⟩
          by_cases holds : reconciler.record.holds key draft = true
          · have recorded := of_decide_eq_true holds
            simpa [object, aims, prepareDraft, membership, made, holds] using .unchanged draft compiles recorded
          · simpa [object, aims, prepareDraft, membership, made, holds] using
              concluded site key reconciler now draft compiles

/-! ### Many passes -/

/-- What is recorded is what the daemon has last read. -/
def Sound (key : ObjectKey) (reconciler : Reconciler) : Prop :=
  ∀ artifact, reconciler.record.artifacts.get? key = some artifact → reconciler.daemon.read = some artifact

theorem Sound.start (key : ObjectKey) (daemon : Daemon) : (Reconciler.start daemon).Sound key := by
  intro artifact recorded
  simp [Reconciler.start, Record.empty] at recorded

theorem Sound.pass {key : ObjectKey} {reconciler : Reconciler} (sound : reconciler.Sound key) (site : Site)
    (now : Circumstances) : (reconciler.pass site key now).2.Sound key := by
  have cases := passed site key reconciler now
  generalize reconciler.pass site key now = ended at cases
  cases cases with
  | failed | stale | unchanged | unread => exact sound
  | deleted =>
    intro artifact recorded
    simp [Record.drop] at recorded
  | installed draft compiles =>
    intro artifact recorded
    simpa [Record.note] using recorded

theorem Sound.after {key : ObjectKey} {reconciler : Reconciler} (sound : reconciler.Sound key) (site : Site)
    (past : List Circumstances) : (reconciler.after site key past).Sound key := by
  induction past generalizing reconciler with
  | nil => exact sound
  | cons now rest ih => exact ih (sound.pass site now)

/-- When a pass ends with a configuration installed or unchanged, it has compiled one. After an installation the
file holds it; if nothing was to be changed, the file holds it exactly if the daemon had read what the file held. -/
theorem file_compiled_iff (site : Site) (key : ObjectKey) (daemon : Daemon) (past : List Circumstances)
    (now : Circumstances) (outcome : Outcome) (configured : outcome = .installed ∨ outcome = .unchanged)
    (ended : (((start daemon).after site key past).pass site key now).1 = .ok outcome) :
    ∃ draft, now.Compiles site key draft ∧
      ((((start daemon).after site key past).pass site key now).2.daemon.file = some draft.artifact ↔
        outcome = .installed ∨
          ((start daemon).after site key past).daemon.file = ((start daemon).after site key past).daemon.read) := by
  have sound := (Sound.start key daemon).after site past
  generalize (start daemon).after site key past = reconciler at ended sound ⊢
  have cases := passed site key reconciler now
  generalize reconciler.pass site key now = result at cases ended ⊢
  cases cases with
  | failed | unread => cases ended
  | stale | deleted =>
    cases ended
    exact absurd configured (by decide)
  | unchanged draft compiles holds =>
    cases ended
    refine ⟨draft, compiles, ?_⟩
    rw [sound draft.artifact holds]
    simp
  | installed draft compiles =>
    cases ended
    exact ⟨draft, compiles, by simp⟩

/-! ### A desired state that comes back -/

def fetching (priority : UInt32) (reload : Except Mishap Unit) : Circumstances :=
  ⟨none, .ok (some (.plain priority)), .ok .empty, .ok (), reload⟩

/-- A second configuration replaces the first one in the file, but is not read. -/
def halfDone : Reconciler :=
  (start ⟨none, none⟩).after ⟨none, none⟩ ⟨"kube-system", "lb"⟩
    [fetching 100 (.ok ()), fetching 101 (.error (.fault (.other "no process")))]

/-- Then the first configuration is wanted again. -/
def reverted : Except Failure Outcome × Reconciler :=
  halfDone.pass ⟨none, none⟩ ⟨"kube-system", "lb"⟩ (fetching 100 (.ok ()))

theorem file_compiled_iff_halfDone :
    (Outcome.unchanged = .installed ∨ Outcome.unchanged = .unchanged) ∧ reverted.1 = .ok .unchanged ∧
      ∃ draft, (fetching 100 (.ok ())).Compiles ⟨none, none⟩ ⟨"kube-system", "lb"⟩ draft ∧
        (reverted.2.daemon.file = some draft.artifact ↔
          Outcome.unchanged = .installed ∨ halfDone.daemon.file = halfDone.daemon.read) := by
  have ended : reverted.1 = .ok .unchanged := by decide +kernel
  exact ⟨.inr rfl, ended, file_compiled_iff ⟨none, none⟩ ⟨"kube-system", "lb"⟩ ⟨none, none⟩
    [fetching 100 (.ok ()), fetching 101 (.error (.fault (.other "no process")))] (fetching 100 (.ok ())) .unchanged
    (.inr rfl) ended⟩

/-- The pass finds nothing to change, though the file does not hold what it has compiled. -/
theorem unchanged_beside_other_file :
    reverted.1 = .ok .unchanged ∧
      ¬ ∃ draft, (fetching 100 (.ok ())).Compiles ⟨none, none⟩ ⟨"kube-system", "lb"⟩ draft ∧
        reverted.2.daemon.file = some draft.artifact := by
  refine ⟨by decide +kernel, ?_⟩
  rintro ⟨draft, ⟨balancer, membership, fetched, counted, drafted⟩, held⟩
  cases fetched
  cases counted
  have apart : reverted.2.daemon.file ≠
      (Draft.ofBalancer ⟨none, none⟩ ⟨"kube-system", "lb"⟩ (.plain 100) .empty).toOption.map Draft.artifact := by
    decide +kernel
  rw [held, drafted] at apart
  exact apart rfl

end Reconciler

end VipKeeper.Sync
