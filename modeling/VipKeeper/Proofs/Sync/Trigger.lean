import VipKeeper.Proofs.LoadBalancer.Lookup
import VipKeeper.Proofs.Sync.Controller

/-! The trigger of a controller that follows a file.

Each document that is read from the file is compared with the one before, and the controller handles the events of the
difference in order. -/

namespace VipKeeper.Sync.Controller

/-- Events are handled one after the other. -/
def handleAll (controller : Controller) (events : List Event) : Controller :=
  events.foldl (fun controller event => (controller.handle event).1) controller

/-- A controller after the events of further documents. -/
def follow (controller : Controller) (known : SourceDocument) : List SourceDocument → Controller
  | [] => controller
  | document :: rest => (controller.handleAll (known.diff document)).follow document rest

/-- The trigger after a change of the target. -/
def triggerThrough (trigger : Option String) (change : Change) : Option String :=
  if change.isResync then trigger else triggerAfter change trigger

/-! ### The events of one difference -/

theorem target_handle (controller : Controller) (event : Event) :
    (controller.handle event).1.target = controller.target := by
  cases event with
  | membership => rfl
  | balancer change =>
    rw [handle_balancer]
    split <;> rfl

theorem trigger_handle_balancer (controller : Controller) (change : Change) :
    (controller.handle (.balancer change)).1.trigger =
      if change.key = controller.target then triggerThrough controller.trigger change else controller.trigger := by
  rw [handle_balancer]
  by_cases same : change.key = controller.target
  · cases resync : change.isResync <;> simp [Change.Concerns, same, resync, triggerThrough, note, enqueue, withDepth]
  · simp [Change.Concerns, same]

theorem target_handleAll (controller : Controller) (events : List Event) :
    (controller.handleAll events).target = controller.target := by
  induction events generalizing controller with
  | nil => rfl
  | cons event rest ih =>
    rw [handleAll, List.foldl_cons, ← handleAll, ih, target_handle]

theorem trigger_handleAll (controller : Controller) (events : List Event) :
    (controller.handleAll events).trigger =
      ((SourceDocument.changes events).filter (fun change => decide (change.key = controller.target))).foldl
        triggerThrough controller.trigger := by
  induction events generalizing controller with
  | nil => rfl
  | cons event rest ih =>
    rw [handleAll, List.foldl_cons, ← handleAll, ih, target_handle]
    cases event with
    | membership => rfl
    | balancer change =>
      rw [trigger_handle_balancer, SourceDocument.changes_cons_balancer]
      by_cases same : change.key = controller.target <;> simp [same]

/-- The events of a difference change the trigger at most once. -/
theorem trigger_diff (controller : Controller) (old new : SourceDocument) :
    (controller.handleAll (old.diff new)).trigger =
      (Change.between? (old.byKey.get? controller.target) (new.byKey.get? controller.target)).toList.foldl
        triggerThrough controller.trigger := by
  rw [trigger_handleAll, SourceDocument.changes_of_key]

/-! ### Documents one after the other -/

/-- The trigger names the target's object in a document, if there is one, and a pass that reads the document does not
take that object for another one. -/
def Informed (controller : Controller) (document : SourceDocument) : Prop :=
  ∀ balancer, document.get? controller.target = some balancer →
    controller.trigger = some balancer.uid ∧
      ∀ site, Aim.ofObject site (controller.triggerFor controller.target) (document.get? controller.target) ≠ .ok .stale

/-- One object has taken the place of another, but the version has stayed. -/
def Replaced (target : ObjectKey) (old new : SourceDocument) : Prop :=
  ∃ before after, old.get? target = some before ∧ new.get? target = some after ∧
    before.uid ≠ after.uid ∧ before.version = after.version

theorem informed_iff (controller : Controller) (document : SourceDocument) :
    controller.Informed document ↔
      ∀ balancer, document.get? controller.target = some balancer → controller.trigger = some balancer.uid := by
  constructor
  · intro informed balancer found
    exact (informed balancer found).1
  · intro told balancer found
    refine ⟨told balancer found, fun site stale => ?_⟩
    obtain ⟨other, same, apart⟩ := ofObject_eq_stale_iff.1 stale
    refine apart ?_
    simp [triggerFor, Agrees, told other same]

theorem informed_handleAll_iff {controller : Controller} {old new : SourceDocument} (informed : controller.Informed old)
    (oldKeys : old.DistinctKeys) (newKeys : new.DistinctKeys) :
    (controller.handleAll (old.diff new)).Informed new ↔ ¬ Replaced controller.target old new := by
  have told := (informed_iff ..).1 informed
  rw [informed_iff, target_handleAll, trigger_diff, Replaced]
  rw [SourceDocument.get?_eq_byKey oldKeys] at told ⊢
  rw [SourceDocument.get?_eq_byKey newKeys]
  generalize new.byKey.get? controller.target = after
  generalize old.byKey.get? controller.target = before at told
  cases after with
  | none => simp
  | some balancer =>
    cases before with
    | none => simp [Change.between?, triggerThrough, Change.isResync, triggerAfter, Change.uid?]
    | some previous =>
      have known := told previous rfl
      by_cases same : previous = balancer
      · simp [Change.between?, same, known]
      · by_cases still : previous.version = balancer.version
        · simp [Change.between?, same, triggerThrough, Change.isResync, still, known]
        · simp [Change.between?, same, triggerThrough, Change.isResync, still, triggerAfter, Change.uid?]

/-- A statement about each document with those before it. -/
theorem forall_prefix_cons_iff {next : SourceDocument} {rest : List SourceDocument}
    {good : List SourceDocument → SourceDocument → Prop} :
    (∀ past document, past ++ [document] <+: next :: rest → good past document) ↔
      good [] next ∧ ∀ past document, past ++ [document] <+: rest → good (next :: past) document := by
  constructor
  · intro all
    refine ⟨all [] next ⟨rest, rfl⟩, fun past document part => all (next :: past) document ?_⟩
    exact List.cons_prefix_cons.2 ⟨rfl, part⟩
  · rintro ⟨first, later⟩ past document part
    cases past with
    | nil =>
      have same : document = next := by simpa using part
      exact same ▸ first
    | cons head past =>
      obtain ⟨rfl, within⟩ := List.cons_prefix_cons.1 part
      exact later past document within

theorem informed_follow_iff {controller : Controller} {known : SourceDocument} {documents : List SourceDocument}
    (informed : controller.Informed known) (knownKeys : known.DistinctKeys)
    (keys : ∀ document ∈ documents, document.DistinctKeys) :
    (∀ past document, past ++ [document] <+: documents →
        (controller.follow known (past ++ [document])).Informed document) ↔
      (known :: documents).IsChain (fun old new => ¬ Replaced controller.target old new) := by
  induction documents generalizing controller known with
  | nil => simp
  | cons next rest ih =>
    have nextKeys := keys next List.mem_cons_self
    have restKeys : ∀ document ∈ rest, document.DistinctKeys :=
      fun document inside => keys document (List.mem_cons_of_mem next inside)
    rw [forall_prefix_cons_iff, List.isChain_cons_cons, ← informed_handleAll_iff informed knownKeys nextKeys]
    refine and_congr_right (fun (told : (controller.handleAll (known.diff next)).Informed next) => ?_)
    have later := ih told nextKeys restKeys
    rw [target_handleAll] at later
    exact later

/-- After each document of a file, the trigger names the target's object in it, unless in one document an object had
taken the place of another without a new version. -/
theorem trigger_follows_iff (controller : Controller) (documents : List SourceDocument)
    (keys : ∀ document ∈ documents, document.DistinctKeys) :
    (∀ past document, past ++ [document] <+: documents →
        (controller.follow .empty (past ++ [document])).Informed document) ↔
      (SourceDocument.empty :: documents).IsChain (fun old new => ¬ Replaced controller.target old new) := by
  refine informed_follow_iff ?_ List.nodup_nil keys
  intro balancer found
  cases found

/-! ### An object that is declared anew -/

def holding (balancer : LoadBalancer) : SourceDocument :=
  ⟨[balancer], .empty⟩

/-- With a new version the other object is announced. -/
theorem trigger_follows_iff_versioned :
    (∀ document ∈ [holding (.plain 100), holding { LoadBalancer.plain 101 with uid := "v", version := "2" }],
        document.DistinctKeys) ∧
      ((start ⟨"kube-system", "lb"⟩).follow .empty
        [holding (.plain 100), holding { LoadBalancer.plain 101 with uid := "v", version := "2" }]).trigger =
          some "v" := by
  have keys : ∀ document ∈
      [holding (.plain 100), holding { LoadBalancer.plain 101 with uid := "v", version := "2" }],
      document.DistinctKeys := by
    simp [holding, SourceDocument.DistinctKeys]
  refine ⟨keys, ?_⟩
  have informed := (trigger_follows_iff (start ⟨"kube-system", "lb"⟩) _ keys).2 (by
    simp [Replaced, holding, start, SourceDocument.empty, SourceDocument.get?, LoadBalancer.plain])
  exact (informed [holding (.plain 100)] _ (List.prefix_refl _) _ rfl).1

/-- Without one the update counts as a resync, and a pass leaves the new object alone. -/
theorem replaced_unannounced :
    ((start ⟨"kube-system", "lb"⟩).follow .empty
        [holding (.plain 100), holding { LoadBalancer.plain 101 with uid := "v" }]).trigger = some "u" ∧
      Aim.ofObject ⟨none, none⟩ (some "u")
        ((holding { LoadBalancer.plain 101 with uid := "v" }).get? ⟨"kube-system", "lb"⟩) = .ok .stale := by
  decide +kernel

end VipKeeper.Sync.Controller
