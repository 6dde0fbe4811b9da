import VipKeeper.Proofs.Sync.Draft
import VipKeeper.Proofs.Table

/-! A pass, call by call.

Between two calls of a pass the rest of the program goes on, so each call can meet a different state of the
store and of the cluster. -/

namespace VipKeeper.Sync

/-- What is still to be done: nothing, or a call and then what follows from its answer. -/
inductive Course (α : Type) where
  | done (value : α)
  | object (key : ObjectKey) (next : Except Mishap (Option LoadBalancer) → Course α)
  | membership (next : Except Mishap Membership → Course α)
  | install (text : String) (next : Except Mishap Unit → Course α)
  | reload (next : Except Mishap Unit → Course α)

/-- The object that a pass is for, and the nodes that there are. -/
structure Facts where
  object : Option LoadBalancer
  membership : Membership

namespace Course

variable {α β : Type}

def bind (next : α → Course β) : Course α → Course β
  | done value => next value
  | object key rest => .object key (fun answer => (rest answer).bind next)
  | membership rest => .membership (fun answer => (rest answer).bind next)
  | install text rest => .install text (fun answer => (rest answer).bind next)
  | reload rest => .reload (fun answer => (rest answer).bind next)

instance : Monad Course where
  pure := done
  bind course next := course.bind next

/-- Every call waits for its answer. -/
def calls : Surroundings Course where
  object key := .object key .done
  membership := .membership .done
  install text := .install text .done
  reload := .reload .done

/-- A call is answered by the facts, unless it runs into a mishap. -/
def answer (mishap : Option Mishap) (fact : α) : Except Mishap α :=
  match mishap with
  | none => .ok fact
  | some mishap => .error mishap

/-- The next call is answered. -/
def proceed (store : ObjectKey → Option LoadBalancer) (nodes : Membership) (mishap : Option Mishap) :
    Course α → Course α
  | done value => done value
  | object key next => next (answer mishap (store key))
  | membership next => next (answer mishap nodes)
  | install _ next | reload next => next (answer mishap ())

/-! ### Courses in other surroundings -/

section Perform

variable {m : Type → Type} [Monad m]

/-- All calls of a course are made at once. -/
def perform (surroundings : Surroundings m) : Course α → m α
  | done value => pure value
  | object key next => do (next (← surroundings.object key)).perform surroundings
  | membership next => do (next (← surroundings.membership)).perform surroundings
  | install text next => do (next (← surroundings.install text)).perform surroundings
  | reload next => do (next (← surroundings.reload)).perform surroundings

variable [LawfulMonad m]

theorem perform_bind (surroundings : Surroundings m) (course : Course α) (next : α → Course β) :
    (course >>= next).perform surroundings =
      course.perform surroundings >>= fun value => (next value).perform surroundings := by
  induction course with
  | done value =>
    rw [perform, pure_bind]
    rfl
  | object _ rest ih | membership rest ih | install _ rest ih | reload rest ih =>
    simp only [perform, bind_assoc]
    exact congrArg _ (funext ih)

theorem perform_call {surroundings : Surroundings m} {course : Course α} {call : m α} {next : α → Course β}
    {rest : α → m β} (same : course.perform surroundings = call)
    (goes : ∀ value, (next value).perform surroundings = rest value) :
    (course >>= next).perform surroundings = call >>= rest := by
  rw [perform_bind, same]
  exact congrArg _ (funext goes)

theorem perform_prepareDraft (surroundings : Surroundings m) (site : Site) (record : Record) (key : ObjectKey)
    (accepted : LoadBalancer.Accepted) (unicast : Option Unicast) :
    (prepareDraft calls site record key accepted unicast).perform surroundings =
      prepareDraft surroundings site record key accepted unicast := by
  unfold prepareDraft
  refine perform_call (by simp [calls, perform]) (fun answer => ?_)
  split
  · rfl
  · split <;> rfl

theorem perform_prepare (surroundings : Surroundings m) (site : Site) (record : Record) (key : ObjectKey)
    (trigger : Option String) :
    (prepare calls site record key trigger).perform surroundings = prepare surroundings site record key trigger := by
  unfold prepare
  refine perform_call (by simp [calls, perform]) (fun answer => ?_)
  split
  · rfl
  · split
    next => rfl
    next => rfl
    next => rfl
    next => exact perform_call (perform_prepareDraft ..) (fun _ => rfl)

theorem perform_conclude (surroundings : Surroundings m) (record : Record) (key : ObjectKey) (draft : Draft) :
    (conclude calls record key draft).perform surroundings = conclude surroundings record key draft := by
  unfold conclude
  refine perform_call (by simp [calls, perform]) (fun installed => ?_)
  split
  · rfl
  · refine perform_call (by simp [calls, perform]) (fun reloaded => ?_)
    split <;> rfl

/-- A pass is the same whether its calls are made at once or one by one. -/
theorem perform_pass (surroundings : Surroundings m) (site : Site) (record : Record) (key : ObjectKey)
    (trigger : Option String) :
    (pass calls site record key trigger).perform surroundings = pass surroundings site record key trigger := by
  unfold pass
  refine perform_call (perform_prepare ..) (fun prepared => ?_)
  split
  · rfl
  · rfl
  · exact perform_conclude ..

end Perform

/-! ### Where a course leads -/

/-- A course asks for no object but that under the key. Whichever calls run into a mishap, it ends well if the
others are answered by the facts. -/
def Leads (key : ObjectKey) (facts : Facts) (good : α → Prop) : Course α → Prop
  | done value => good value
  | object asked next => asked = key ∧
    (next (.ok facts.object)).Leads key facts good ∧ ∀ mishap, (next (.error mishap)).Leads key facts good
  | membership next =>
    (next (.ok facts.membership)).Leads key facts good ∧ ∀ mishap, (next (.error mishap)).Leads key facts good
  | install _ next | reload next =>
    (next (.ok ())).Leads key facts good ∧ ∀ mishap, (next (.error mishap)).Leads key facts good

variable {key : ObjectKey} {facts : Facts}

theorem Leads.proceed {good : α → Prop} {store : ObjectKey → Option LoadBalancer} {nodes : Membership}
    {course : Course α} (leads : course.Leads key ⟨store key, nodes⟩ good) (mishap : Option Mishap) :
    (course.proceed store nodes mishap).Leads key ⟨store key, nodes⟩ good := by
  cases course with
  | done value => exact leads
  | object asked next =>
    obtain ⟨rfl, told, failed⟩ := leads
    cases mishap with
    | none => exact told
    | some mishap => exact failed mishap
  | membership next | install _ next | reload next =>
    cases mishap with
    | none => exact leads.1
    | some mishap => exact leads.2 mishap

theorem Leads.imp {good better : α → Prop} {course : Course α} (leads : course.Leads key facts good)
    (follows : ∀ value, good value → better value) : course.Leads key facts better := by
  induction course with
  | done value => exact follows value leads
  | object _ next ih => exact ⟨leads.1, ih _ leads.2.1, fun mishap => ih _ (leads.2.2 mishap)⟩
  | membership next ih | install _ next ih | reload next ih =>
    exact ⟨ih _ leads.1, fun mishap => ih _ (leads.2 mishap)⟩

theorem leads_bind (good : β → Prop) (course : Course α) (next : α → Course β) :
    (course >>= next).Leads key facts good ↔
      course.Leads key facts (fun value => (next value).Leads key facts good) := by
  induction course with
  | done value => rfl
  | object _ rest ih => exact and_congr_right (fun _ => and_congr (ih _) (forall_congr' (fun mishap => ih _)))
  | membership rest ih | install _ rest ih | reload rest ih =>
    exact and_congr (ih _) (forall_congr' (fun mishap => ih _))

end Course

theorem isRetryable_ofMishap (tried : Fault → Failure) (retryable : ∀ cause, (tried cause).isRetryable = true)
    (mishap : Mishap) : (Failure.ofMishap tried mishap).isRetryable = true := by
  cases mishap with
  | fault cause => exact retryable cause
  | panic words => rfl

/-- The record holds what the object calls for in the cluster that there is, and nothing if there is no object. -/
structure Reflects (site : Site) (key : ObjectKey) (facts : Facts) (record : Record) : Prop where
  absent : facts.object = none → record.artifacts.get? key = none
  present : ∀ balancer draft, facts.object = some balancer →
    Draft.ofBalancer site key balancer facts.membership = .ok draft →
      record.artifacts.get? key = some draft.artifact

/-- A pass ends with such a record, or with a failure that calls for another pass. -/
def Settles (site : Site) (key : ObjectKey) (facts : Facts) (ended : Record × Except Failure Outcome) : Prop :=
  (∃ failure, ended.2 = .error failure ∧ failure.isRetryable = true) ∨ Reflects site key facts ended.1

theorem Settles.of_mishap {site : Site} {key : ObjectKey} {facts : Facts} {record : Record} {tried : Fault → Failure}
    (retryable : ∀ cause, (tried cause).isRetryable = true) (mishap : Mishap) :
    Settles site key facts (record, .error (.ofMishap tried mishap)) :=
  .inl ⟨_, rfl, isRetryable_ofMishap tried retryable mishap⟩

/-- Nothing is called for by an object that is not accepted. -/
theorem Reflects.of_refused {site : Site} {key : ObjectKey} {facts : Facts} {record : Record} {balancer : LoadBalancer}
    {failure : Failure} (found : facts.object = some balancer)
    (refused : Draft.ofBalancer site key balancer facts.membership = .error failure) :
    Reflects site key facts record := by
  constructor
  · intro absent
    cases found.symm.trans absent
  · intro other draft same drafted
    cases found.symm.trans same
    cases refused.symm.trans drafted

theorem Reflects.of_drafted {site : Site} {key : ObjectKey} {facts : Facts} {record : Record} {balancer : LoadBalancer}
    {draft : Draft} (found : facts.object = some balancer)
    (drafted : Draft.ofBalancer site key balancer facts.membership = .ok draft)
    (recorded : record.artifacts.get? key = some draft.artifact) : Reflects site key facts record := by
  constructor
  · intro absent
    cases found.symm.trans absent
  · intro other wanted same sought
    cases found.symm.trans same
    cases drafted.symm.trans sought
    exact recorded

theorem leads_conclude {site : Site} {key : ObjectKey} {facts : Facts} {balancer : LoadBalancer} {draft : Draft}
    (found : facts.object = some balancer)
    (drafted : Draft.ofBalancer site key balancer facts.membership = .ok draft) (record : Record) :
    (conclude Course.calls record key draft).Leads key facts (Settles site key facts) := by
  unfold conclude
  simp only [Course.leads_bind, Course.calls, Course.Leads]
  refine ⟨⟨?_, ?_⟩, ?_⟩
  · exact .inr (.of_drafted found drafted (by simp [Record.note]))
  · intro mishap
    exact .of_mishap (fun _ => rfl) mishap
  · intro mishap
    exact .of_mishap (fun _ => rfl) mishap

/-- The first part of a pass comes to such an end, or to the configuration that is called for. -/
def Prepared (site : Site) (key : ObjectKey) (facts : Facts) : Record × Except Failure Verdict → Prop
  | (record, .error failure) => Settles site key facts (record, .error failure)
  | (record, .ok (.over outcome)) => Settles site key facts (record, .ok outcome)
  | (_, .ok (.install draft)) => ∃ balancer, facts.object = some balancer ∧
      Draft.ofBalancer site key balancer facts.membership = .ok draft

theorem leads_prepare {site : Site} {key : ObjectKey} {facts : Facts} {trigger : Option String}
    (agrees : ∀ balancer, facts.object = some balancer → Agrees trigger balancer) (record : Record) :
    (prepare Course.calls site record key trigger).Leads key facts (Prepared site key facts) := by
  unfold prepare
  simp only [Course.leads_bind, Course.calls, Course.Leads]
  refine ⟨trivial, ?_, fun mishap => .of_mishap (fun _ => rfl) mishap⟩
  have aim := aimed site trigger facts.object
  generalize Aim.ofObject site trigger facts.object = result at aim
  generalize found : facts.object = object at aim
  cases aim with
  | deleted =>
    refine .inr ⟨fun _ => by simp [Record.drop], fun balancer draft present => ?_⟩
    cases found.symm.trans present
  | stale balancer other => exact absurd (agrees balancer found) other
  | refused balancer failure same => exact .inr (.of_refused found (same key _))
  | plan balancer accepted unicast same =>
    simp only [prepareDraft, Course.leads_bind, Course.Leads]
    refine ⟨?_, fun mishap => .of_mishap (fun _ => rfl) mishap⟩
    cases made : Draft.make site key accepted unicast facts.membership with
    | error failure => exact .inr (.of_refused found ((same key _).trans made))
    | ok draft =>
      have drafted := (same key facts.membership).trans made
      by_cases holds : record.holds key draft = true
      · simp only [holds, if_true]
        exact .inr (.of_drafted found drafted (of_decide_eq_true holds))
      · simp only [holds]
        exact ⟨balancer, found, drafted⟩

/-- A pass that was not triggered by another object ends with a record that reflects the facts, or it is tried
again. -/
theorem leads_pass {site : Site} {key : ObjectKey} {facts : Facts} {trigger : Option String}
    (agrees : ∀ balancer, facts.object = some balancer → Agrees trigger balancer) (record : Record) :
    (pass Course.calls site record key trigger).Leads key facts (Settles site key facts) := by
  unfold pass
  rw [Course.leads_bind]
  refine (leads_prepare agrees record).imp (fun prepared ends => ?_)
  split
  · exact ends
  · exact ends
  · obtain ⟨balancer, found, drafted⟩ := ends
    exact leads_conclude found drafted _

end VipKeeper.Sync
