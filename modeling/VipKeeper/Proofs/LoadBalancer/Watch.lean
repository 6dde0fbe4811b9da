import Mathlib.Data.List.Induction
import VipKeeper.Proofs.LoadBalancer.Lookup
import VipKeeper.Proofs.Lists

/-! What the events of a watched file tell.

Each look at the file compares the document that is read with the last one that was, and a look that reads nothing is
as if it had not been. Whoever hears of all events therefore knows the last document that was read, and every change
of an object or of the nodes is told once. -/

namespace VipKeeper

/-- What someone who hears of events only takes the load balancers to be. -/
def Event.learn (table : OrderedMap ObjectKey LoadBalancer) : Event → OrderedMap ObjectKey LoadBalancer
  | .balancer (.added new) | .balancer (.updated _ new) => table.insert new.key new
  | .balancer (.deleted old) => table.erase old.key
  | .balancer (.vanished key _) => table.erase key
  | .membership => table

namespace SourceDocument

/-! ### The events of one difference -/

theorem get?_learn_balancer (table : OrderedMap ObjectKey LoadBalancer) (change : Change) (key : ObjectKey) :
    (Event.learn table (.balancer change)).get? key = if change.key = key then change.brought? else table.get? key := by
  cases change with
  | added balancer | updated _ balancer =>
    simp only [Event.learn, OrderedMap.get?_insert, Change.key, Change.brought?, eq_comm]
  | deleted balancer | vanished _ _ =>
    simp only [Event.learn, OrderedMap.get?_erase, Change.key, Change.brought?, eq_comm]

theorem get?_foldl_learn (table : OrderedMap ObjectKey LoadBalancer) (events : List Event) (key : ObjectKey) :
    (events.foldl Event.learn table).get? key =
      ((changes events).filter (fun change => decide (change.key = key))).foldl (fun _ change => change.brought?)
        (table.get? key) := by
  induction events generalizing table with
  | nil => rfl
  | cons event rest ih =>
    rw [List.foldl_cons, ih]
    cases event with
    | membership => rfl
    | balancer change =>
      rw [get?_learn_balancer, changes_cons_balancer]
      by_cases same : change.key = key <;> simp [same]

theorem foldl_learn_diff (old new : SourceDocument) : (old.diff new).foldl Event.learn old.byKey = new.byKey := by
  refine OrderedMap.eq_of_get? (fun key => ?_)
  -- A difference has at most one change for a key, which brings what the new document holds.
  rw [get?_foldl_learn, changes_of_key]
  cases told : Change.between? (old.byKey.get? key) (new.byKey.get? key) with
  | none => exact Change.eq_of_between? told
  | some change => exact Change.brought?_between? told

theorem count_membership_diff (old new : SourceDocument) :
    (old.diff new).count .membership = if old.membership = new.membership then 0 else 1 := by
  have none (found : List Change) : (found.map Event.balancer).count .membership = 0 := by
    refine List.count_eq_zero.2 (fun inside => ?_)
    obtain ⟨_, _, same⟩ := List.mem_map.1 inside
    cases same
  rw [diff, List.count_append, none, Nat.zero_add]
  split <;> rfl

end SourceDocument

namespace Source

open SourceDocument (changes)

/-! ### One look after the other -/

/-- A watched file: the document that was read last, and the events that were sent. -/
structure Watched where
  known : SourceDocument
  sent : List Event

def Watched.poll (path : String) (watched : Watched) (files : Files) : Watched :=
  let (known, events) := Source.poll files path watched.known
  ⟨known, watched.sent ++ events⟩

/-- Looks at a file once at each moment of a history. -/
def watch (path : String) (history : List Files) : Watched :=
  history.foldl (Watched.poll path) ⟨.empty, []⟩

/-- The documents that could be read. -/
def documents (path : String) (history : List Files) : List SourceDocument :=
  history.filterMap (fun files => (load files path).toOption)

/-- What was sent tells of the documents, each compared with the one before it. -/
structure Watched.Tells (watched : Watched) (documents : List SourceDocument) : Prop where
  known : watched.known = documents.getLastD .empty
  table : watched.sent.foldl Event.learn .empty = watched.known.byKey
  memberships : watched.sent.count .membership =
    (successions .empty documents).countP (fun (old, new) => decide (old.membership ≠ new.membership))
  changes (key : ObjectKey) : (changes watched.sent).filter (fun change => decide (change.key = key)) =
    (successions .empty documents).filterMap (fun (old, new) =>
      Change.between? (old.byKey.get? key) (new.byKey.get? key))

namespace Watched

variable {watched : Watched} {known : List SourceDocument}

theorem Tells.start : Tells ⟨.empty, []⟩ [] :=
  ⟨rfl, rfl, rfl, fun _ => rfl⟩

theorem Tells.read (tells : watched.Tells known) (document : SourceDocument) :
    Tells ⟨document, watched.sent ++ watched.known.diff document⟩ (known ++ [document]) := by
  refine ⟨?_, ?_, ?_, fun key => ?_⟩
  · simp
  · rw [List.foldl_append, tells.table, SourceDocument.foldl_learn_diff]
  · rw [List.count_append, tells.memberships, SourceDocument.count_membership_diff, successions_concat, ← tells.known]
    by_cases same : watched.known.membership = document.membership <;> simp [same]
  · rw [SourceDocument.changes, List.filterMap_append, List.filter_append, ← SourceDocument.changes,
      ← SourceDocument.changes, tells.changes, SourceDocument.changes_of_key, successions_concat, ← tells.known,
      List.filterMap_append]
    cases told : Change.between? (watched.known.byKey.get? key) (document.byKey.get? key) <;> simp [told]

theorem Tells.poll (tells : watched.Tells known) (path : String) (files : Files) :
    (watched.poll path files).Tells (known ++ documents path [files]) := by
  unfold Watched.poll Source.poll documents
  cases found : load files path with
  | error fault => simpa [found, Except.toOption] using tells
  | ok document => simpa [found, Except.toOption] using tells.read document

end Watched

theorem documents_append (path : String) (earlier later : List Files) :
    documents path (earlier ++ later) = documents path earlier ++ documents path later :=
  List.filterMap_append

theorem watch_concat (path : String) (history : List Files) (files : Files) :
    watch path (history ++ [files]) = (watch path history).poll path files := by
  rw [watch, List.foldl_append]
  rfl

theorem tells_watch (path : String) (history : List Files) : (watch path history).Tells (documents path history) := by
  induction history using List.reverseRecOn with
  | nil => exact Watched.Tells.start
  | append_singleton earlier files ih =>
    rw [watch_concat, documents_append]
    exact ih.poll path files

theorem poll_of_unreadable {files : Files} {path : String} (unreadable : (load files path).toOption = none)
    (watched : Watched) : watched.poll path files = watched := by
  unfold Watched.poll Source.poll
  cases found : load files path with
  | error fault => simp
  | ok document => simp [found, Except.toOption] at unreadable

/-- Whoever hears of all events knows the load balancers of the last document that was read. The nodes are announced
once for each change between documents that were read one after the other, and so is every change of an object; a look
that reads nothing sends nothing and forgets nothing. -/
theorem watch_tells_all (path : String) (history : List Files) :
    (watch path history).sent.foldl Event.learn .empty = ((documents path history).getLastD .empty).byKey ∧
      (watch path history).sent.count .membership =
        (successions .empty (documents path history)).countP (fun (old, new) =>
          decide (old.membership ≠ new.membership)) ∧
      (∀ key, (changes (watch path history).sent).filter (fun change => decide (change.key = key)) =
        (successions .empty (documents path history)).filterMap (fun (old, new) =>
          Change.between? (old.byKey.get? key) (new.byKey.get? key))) ∧
      ∀ files, (load files path).toOption = none → watch path (history ++ [files]) = watch path history := by
  have tells := tells_watch path history
  refine ⟨?_, tells.memberships, tells.changes, fun files unreadable => ?_⟩
  · rw [tells.table, tells.known]
  · rw [watch_concat, poll_of_unreadable unreadable]

/-- A file that declares a node. -/
def manned : Files :=
  Files.empty.put "lb.yaml"
    (.file "membership:\n  nodes:\n  - name: a\n    address: 10.1.0.2\n    ready: true\n".toUTF8.toList)

/-- While the file is missing, its node is not given up. -/
theorem watch_tells_all_missing :
    (load .empty "lb.yaml").toOption = none ∧
      watch "lb.yaml" ([manned, .empty] ++ [.empty]) = watch "lb.yaml" [manned, .empty] := by
  have missing : (load .empty "lb.yaml").toOption = none := by decide +kernel
  exact ⟨missing, (watch_tells_all "lb.yaml" [manned, .empty]).2.2.2 .empty missing⟩

end Source

end VipKeeper
