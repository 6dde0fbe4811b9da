import VipKeeper.Proofs.Sync.Installation
import VipKeeper.Sync.Controller

/-! What a pass asks for and does, call by call, and what it leaves untouched.

A pass first asks its questions. Only when a configuration is due that is not recorded does it turn to the daemon, and
only when the daemon has done all that it was told is anything recorded. -/

namespace VipKeeper.Sync

/-- A call of a pass, and how it ended. -/
inductive Call where
  | object (key : ObjectKey) (found : Except Mishap (Option LoadBalancer))
  | membership (found : Except Mishap Membership)
  | install (text : String) (done : Except Mishap Unit)
  | reload (done : Except Mishap Unit)
  deriving DecidableEq

/-- A pass that is over: what it came to, the record that it leaves, and its calls in their order. -/
structure Passage where
  result : Except Failure Outcome
  record : Record
  calls : List Call

def Passage.ofRun (ended : (Record × Except Failure Outcome) × List Call) : Passage :=
  ⟨ended.1.2, ended.1.1, ended.2⟩

@[simp] theorem Passage.ofRun_pure (record : Record) (result : Except Failure Outcome) (calls : List Call) :
    Passage.ofRun (pure ((record, result), calls) : Id _) = ⟨result, record, calls⟩ := rfl

namespace Circumstances

/-- Every call is written down with its end. -/
def logged (now : Circumstances) : Surroundings (StateM (List Call)) where
  object key calls := (now.object, calls ++ [.object key now.object])
  membership calls := (now.membership, calls ++ [.membership now.membership])
  install text calls := (now.install, calls ++ [.install text now.install])
  reload calls := (now.reload, calls ++ [.reload now.reload])

@[simp] theorem run_object (now : Circumstances) (key : ObjectKey) (calls : List Call) :
    (now.logged.object key).run calls = pure (now.object, calls ++ [.object key now.object]) := rfl

@[simp] theorem run_membership (now : Circumstances) (calls : List Call) :
    now.logged.membership.run calls = pure (now.membership, calls ++ [.membership now.membership]) := rfl

@[simp] theorem run_install (now : Circumstances) (text : String) (calls : List Call) :
    (now.logged.install text).run calls = pure (now.install, calls ++ [.install text now.install]) := rfl

@[simp] theorem run_reload (now : Circumstances) (calls : List Call) :
    now.logged.reload.run calls = pure (now.reload, calls ++ [.reload now.reload]) := rfl

def passage (now : Circumstances) (site : Site) (key : ObjectKey) (record : Record) : Passage :=
  .ofRun ((pass now.logged site record key now.trigger).run [])

/-- The questions of a pass, which come before anything is done. -/
def questions (now : Circumstances) (key : ObjectKey) : List Call :=
  [.object key now.object, .membership now.membership]

/-- A configuration has to be installed: the object of the pass calls for it, and it is not recorded. -/
structure Due (now : Circumstances) (site : Site) (key : ObjectKey) (record : Record) (draft : Draft) : Prop where
  compiles : now.Compiles site key draft
  agrees : ∀ balancer, now.object = .ok (some balancer) → Agrees now.trigger balancer
  apart : record.artifacts.get? key ≠ some draft.artifact

end Circumstances

/-- How a pass can end, and the calls it has made until then. -/
inductive Exit (site : Site) (key : ObjectKey) (record : Record) (now : Circumstances) : Passage → Prop where
  | failed (failure : Failure) (asked : List Call) (first : asked <+: now.questions key) :
      Exit site key record now ⟨.error failure, record, asked⟩
  | deleted (gone : now.object = .ok none) :
      Exit site key record now ⟨.ok .deleted, record.drop key, [.object key (.ok none)]⟩
  | stale (balancer : LoadBalancer) (found : now.object = .ok (some balancer)) (other : ¬ Agrees now.trigger balancer) :
      Exit site key record now ⟨.ok .stale, record, [.object key (.ok (some balancer))]⟩
  | unchanged (draft : Draft) (compiles : now.Compiles site key draft)
      (holds : record.artifacts.get? key = some draft.artifact) :
      Exit site key record now ⟨.ok .unchanged, record, now.questions key⟩
  | uninstalled (draft : Draft) (due : now.Due site key record draft) (mishap : Mishap)
      (lost : now.install = .error mishap) :
      Exit site key record now ⟨.error (.ofMishap .install mishap), record,
        now.questions key ++ [.install draft.artifact (.error mishap)]⟩
  | unread (draft : Draft) (due : now.Due site key record draft) (mishap : Mishap) (lost : now.reload = .error mishap) :
      Exit site key record now ⟨.error (.ofMishap .reload mishap), record,
        now.questions key ++ [.install draft.artifact (.ok ()), .reload (.error mishap)]⟩
  | installed (draft : Draft) (due : now.Due site key record draft) :
      Exit site key record now ⟨.ok .installed, record.note key draft,
        now.questions key ++ [.install draft.artifact (.ok ()), .reload (.ok ())]⟩

namespace Circumstances

variable {now : Circumstances} {site : Site} {key : ObjectKey} {record : Record}

theorem exit_conclude {draft : Draft} (due : now.Due site key record draft) :
    Exit site key record now (.ofRun ((conclude now.logged record key draft).run (now.questions key))) := by
  unfold conclude
  cases install : now.install with
  | error mishap => simpa [install] using .uninstalled draft due mishap install
  | ok =>
    cases reload : now.reload with
    | error mishap => simpa [install, reload] using .unread draft due mishap reload
    | ok => simpa [install, reload] using .installed draft due

theorem exit_passage (now : Circumstances) (site : Site) (key : ObjectKey) (record : Record) :
    Exit site key record now (now.passage site key record) := by
  have early (failure : Failure) : Exit site key record now ⟨.error failure, record, [.object key now.object]⟩ :=
    .failed failure _ ⟨[.membership now.membership], rfl⟩
  have late (failure : Failure) : Exit site key record now ⟨.error failure, record, now.questions key⟩ :=
    .failed failure _ List.prefix_rfl
  unfold passage pass prepare
  cases object : now.object with
  | error mishap => simpa [object] using early (.ofMishap .store mishap)
  | ok found =>
    have aim := aimed site now.trigger found
    generalize aims : Aim.ofObject site now.trigger found = result at aim
    cases aim with
    | deleted => simpa [object, aims] using .deleted object
    | stale balancer other => simpa [object, aims] using .stale balancer object other
    | refused balancer failure same => simpa [object, aims] using early failure
    | plan balancer accepted unicast same =>
      cases membership : now.membership with
      | error mishap =>
        simpa [object, aims, prepareDraft, membership, questions] using late (.ofMishap .membership mishap)
      | ok nodes =>
        cases made : Draft.make site key accepted unicast nodes with
        | error failure =>
          simpa [object, aims, prepareDraft, membership, made, questions] using late failure
        | ok draft =>
          have compiles : now.Compiles site key draft :=
            ⟨balancer, nodes, object, membership, (same key nodes).trans made⟩
          have agrees (other : LoadBalancer) (found : now.object = .ok (some other)) : Agrees now.trigger other := by
            by_contra stale
            cases object.symm.trans found
            cases aims.symm.trans (ofObject_eq_stale_iff.2 ⟨balancer, rfl, stale⟩)
          by_cases holds : record.artifacts.get? key = some draft.artifact
          · have ends : Exit site key record now _ := .unchanged draft compiles holds
            simpa [object, aims, prepareDraft, membership, made, Record.holds, holds, questions] using ends
          · have ends := exit_conclude ⟨compiles, agrees, holds⟩
            simpa [object, aims, prepareDraft, membership, made, Record.holds, holds, questions] using ends

end Circumstances

/-! ### What is left untouched -/

/-- How often the daemon has read its configuration. -/
def Passage.reloads (ended : Passage) : Nat :=
  ended.calls.count (.reload (.ok ()))

/-- What can be relied on of a pass, whatever it meets. -/
structure Atomic (site : Site) (key : ObjectKey) (record : Record) (now : Circumstances) (ended : Passage) : Prop where
  untouched : ended.result ≠ .ok .installed → ended.result ≠ .ok .deleted → ended.record = record ∧ ended.reloads = 0
  counted (controller : Controller) (span : Span) :
    (controller.countReload ended.result).metrics.reloads = controller.metrics.reloads + ended.reloads ∧
      ((controller.countReload ended.result).count span ended.result).metrics.reloads =
        controller.metrics.reloads + ended.reloads
  attempts {text : String} {done : Except Mishap Unit} : .install text done ∈ ended.calls →
    ended.result = .ok .installed ∨
      (∃ mishap, done = .error mishap ∧ ended.result = .error (.ofMishap .install mishap)) ∨
      ∃ mishap, .reload (.error mishap) ∈ ended.calls ∧ ended.result = .error (.ofMishap .reload mishap)
  ordered {done : Except Mishap Unit} : .reload done ∈ ended.calls →
    ∃ text, ended.calls = now.questions key ++ [.install text (.ok ()), .reload done]
  own {uid : String} {balancer : LoadBalancer} {text : String} {done : Except Mishap Unit} :
    now.trigger = some uid → now.object = .ok (some balancer) → uid ≠ balancer.uid → .install text done ∉ ended.calls
  others {other : ObjectKey} : other ≠ key → ended.record.artifacts.get? other = record.artifacts.get? other

namespace Exit

variable {now : Circumstances} {site : Site} {key : ObjectKey} {record : Record} {ended : Passage}

/-- Questions are all that is asked of anyone but the daemon. -/
theorem asked_of_mem {asked : List Call} (first : asked <+: now.questions key) {call : Call} (inside : call ∈ asked) :
    call = .object key now.object ∨ call = .membership now.membership := by
  simpa [Circumstances.questions] using first.subset inside

theorem untouched (exit : Exit site key record now ended) (installed : ended.result ≠ .ok .installed)
    (deleted : ended.result ≠ .ok .deleted) : ended.record = record := by
  cases exit with
  | failed | stale | unchanged | uninstalled | unread => rfl
  | deleted => exact absurd rfl deleted
  | installed => exact absurd rfl installed

/-- The daemon has read a configuration exactly when one was installed. -/
theorem reloads_eq (exit : Exit site key record now ended) :
    ended.reloads = if ended.result = .ok .installed then 1 else 0 := by
  cases exit with
  | failed failure asked first =>
    have none : Call.reload (.ok ()) ∉ asked := fun inside => by simpa using asked_of_mem first inside
    simpa [Passage.reloads] using List.count_eq_zero.2 none
  | deleted | stale | unchanged | uninstalled | unread | installed => rfl

theorem reloads_countReload (controller : Controller) (result : Except Failure Outcome) :
    (controller.countReload result).metrics.reloads =
      controller.metrics.reloads + if result = .ok .installed then 1 else 0 := by
  match result with
  | .ok .installed | .ok .unchanged | .ok .deleted | .ok .stale | .error _ => rfl

theorem reloads_count (controller : Controller) (span : Span) (result : Except Failure Outcome) :
    (controller.count span result).metrics.reloads = controller.metrics.reloads := by
  cases result <;> rfl

theorem counted (exit : Exit site key record now ended) (controller : Controller) (span : Span) :
    (controller.countReload ended.result).metrics.reloads = controller.metrics.reloads + ended.reloads ∧
      ((controller.countReload ended.result).count span ended.result).metrics.reloads =
        controller.metrics.reloads + ended.reloads := by
  rw [reloads_count, reloads_countReload, exit.reloads_eq]
  exact ⟨rfl, rfl⟩

/-- The daemon is given nothing but what is due, and if it fails the pass says so. -/
theorem attempted (exit : Exit site key record now ended) {text : String} {done : Except Mishap Unit}
    (attempt : .install text done ∈ ended.calls) :
    (∃ draft, now.Due site key record draft ∧ text = draft.artifact) ∧
      (ended.result = .ok .installed ∨
        (∃ mishap, done = .error mishap ∧ ended.result = .error (.ofMishap .install mishap)) ∨
        ∃ mishap, .reload (.error mishap) ∈ ended.calls ∧ ended.result = .error (.ofMishap .reload mishap)) := by
  cases exit with
  | failed failure asked first => simpa using asked_of_mem first attempt
  | deleted | stale | unchanged => simp [Circumstances.questions] at attempt
  | uninstalled draft due mishap lost =>
    obtain ⟨same, failed⟩ : text = draft.artifact ∧ done = .error mishap := by
      simpa [Circumstances.questions] using attempt
    exact ⟨⟨draft, due, same⟩, .inr (.inl ⟨mishap, failed, rfl⟩)⟩
  | unread draft due mishap lost =>
    obtain ⟨same, -⟩ : text = draft.artifact ∧ done = .ok () := by simpa [Circumstances.questions] using attempt
    exact ⟨⟨draft, due, same⟩, .inr (.inr ⟨mishap, by simp, rfl⟩)⟩
  | installed draft due =>
    obtain ⟨same, -⟩ : text = draft.artifact ∧ done = .ok () := by simpa [Circumstances.questions] using attempt
    exact ⟨⟨draft, due, same⟩, .inl rfl⟩

theorem ordered (exit : Exit site key record now ended) {done : Except Mishap Unit}
    (told : .reload done ∈ ended.calls) :
    ∃ text, ended.calls = now.questions key ++ [.install text (.ok ()), .reload done] := by
  cases exit with
  | failed failure asked first => simpa using asked_of_mem first told
  | deleted | stale | unchanged | uninstalled => simp [Circumstances.questions] at told
  | unread draft due mishap lost =>
    obtain rfl : done = .error mishap := by simpa [Circumstances.questions] using told
    exact ⟨draft.artifact, rfl⟩
  | installed draft due =>
    obtain rfl : done = .ok () := by simpa [Circumstances.questions] using told
    exact ⟨draft.artifact, rfl⟩

theorem others (exit : Exit site key record now ended) {other : ObjectKey} (different : other ≠ key) :
    ended.record.artifacts.get? other = record.artifacts.get? other := by
  cases exit with
  | failed | stale | unchanged | uninstalled | unread => rfl
  | deleted => simp [Record.drop, OrderedMap.get?_erase, different]
  | installed => simp [Record.note, OrderedMap.get?_insert, different]

end Exit

/-- A pass that does not end with an installation or a deletion changes nothing, and whatever it does, it does in order:
the daemon is called only for a configuration that is due, and is told to read only what was installed. -/
theorem pass_atomic (site : Site) (key : ObjectKey) (record : Record) (now : Circumstances) :
    Atomic site key record now (now.passage site key record) := by
  have exit := now.exit_passage site key record
  refine ⟨?_, exit.counted, fun attempt => (exit.attempted attempt).2, exit.ordered, ?_, exit.others⟩
  · intro installed deleted
    exact ⟨exit.untouched installed deleted, by rw [exit.reloads_eq, if_neg installed]⟩
  · intro uid balancer text done triggered found other attempt
    obtain ⟨⟨draft, due, -⟩, -⟩ := exit.attempted attempt
    have agrees := due.agrees balancer found
    rw [triggered] at agrees
    exact other (by simpa [Agrees] using agrees)

end VipKeeper.Sync
