import VipKeeper.Proofs.Queue.Laws
import VipKeeper.Sync.Controller

/-! The parts of what a controller does with a notification and with the end of a pass, between which the rest of
the program can go on. -/

namespace VipKeeper

/-- Whether a change makes a controller queue its target. -/
def Change.Concerns (change : Change) (target : ObjectKey) : Prop :=
  change.key = target ∧ change.isResync = false

instance (change : Change) (target : ObjectKey) : Decidable (change.Concerns target) :=
  inferInstanceAs (Decidable (_ ∧ _))

namespace Sync.Controller

/-- The part of handling a notification that comes before the target is queued. -/
def note (controller : Controller) (change : Change) : Controller :=
  { controller with trigger := triggerAfter change controller.trigger }

theorem handle_balancer (controller : Controller) (change : Change) :
    controller.handle (.balancer change) =
      if change.Concerns controller.target then (controller.note change).enqueue else (controller, false) := rfl

/-- The part of ending a pass that comes before its key is taken back. -/
def settle (controller : Controller) (backoff : Backoff) (key : ObjectKey) (span : Span)
    (result : Except Failure Outcome) : Controller × Option Span :=
  match result with
  | .ok _ => ((controller.count span result).forget key, none)
  | .error failure =>
    if failure.isRetryable then (controller.count span result).retryLater backoff key
    else ((controller.count span result).forget key, none)

theorem finish_eq (controller : Controller) (backoff : Backoff) (key : ObjectKey) (span : Span)
    (result : Except Failure Outcome) :
    controller.finish backoff key span result =
      (controller.settle backoff key span result).1.release key (controller.settle backoff key span result).2 := by
  unfold finish settle
  cases result with
  | ok outcome => rfl
  | error failure => dsimp only; split <;> rfl

/-- Controllers that differ at most in what they count. -/
structure Alike (controller next : Controller) : Prop where
  target : next.target = controller.target
  trigger : next.trigger = controller.trigger
  waiting : next.queue.waiting = controller.queue.waiting
  dirty : next.queue.dirty = controller.queue.dirty
  held : next.queue.held = controller.queue.held
  closed : next.queue.closed = controller.queue.closed

/-- What settling a pass does: a retryable failure adds the key to an open queue, or has it added later. -/
structure Settled (controller : Controller) (key : ObjectKey) (result : Except Failure Outcome)
    (next : Controller) (retry : Option Span) : Prop where
  target : next.target = controller.target
  trigger : next.trigger = controller.trigger
  held : next.queue.held = controller.queue.held
  closed : next.queue.closed = controller.queue.closed
  coherent : controller.queue.Coherent → next.queue.Coherent
  dirty : ∀ other, other ∈ next.queue.dirty → other ∈ controller.queue.dirty ∨ other = key
  kept : ∀ other, other ∈ controller.queue.dirty → other ∈ next.queue.dirty
  again : ∀ failure, result = .error failure → failure.isRetryable = true → controller.queue.closed = false →
    key ∈ next.queue.dirty ∨ retry ≠ none

variable {controller next : Controller} {key : ObjectKey} {result : Except Failure Outcome}

theorem Alike.settled (alike : controller.Alike next) (retry : Option Span)
    (again : ∀ failure, result = .error failure → failure.isRetryable = true → controller.queue.closed = false →
      retry ≠ none) : controller.Settled key result next retry := by
  refine ⟨alike.target, alike.trigger, alike.held, alike.closed, ?_, ?_, ?_, ?_⟩
  · intro coherent
    exact coherent.of_same alike.waiting alike.dirty alike.held
  · intro other inside
    exact .inl (alike.dirty ▸ inside)
  · intro other inside
    exact alike.dirty.symm ▸ inside
  · intro failure failed retryable still
    exact .inr (again failure failed retryable still)

theorem Alike.settled_add (alike : controller.Alike next) :
    controller.Settled key result { next with queue := (next.queue.add key).1 } none := by
  have added (other : ObjectKey) : other ∈ (next.queue.add key).1.dirty ↔
      other ∈ controller.queue.dirty ∨ (other = key ∧ controller.queue.closed = false) := by
    rw [WorkQueue.mem_dirty_add, alike.dirty, alike.closed]
  refine ⟨alike.target, alike.trigger, ?_, ?_, ?_, ?_, ?_, ?_⟩
  · exact (WorkQueue.held_add next.queue key).trans alike.held
  · exact (WorkQueue.closed_add next.queue key).trans alike.closed
  · intro coherent
    exact (coherent.of_same alike.waiting alike.dirty alike.held).add key
  · intro other inside
    exact ((added other).1 inside).imp_right And.left
  · intro other inside
    exact (added other).2 (.inl inside)
  · intro _ _ _ still
    exact .inl ((added key).2 (.inr ⟨rfl, still⟩))

theorem settled (controller : Controller) (backoff : Backoff) (key : ObjectKey) (span : Span)
    (result : Except Failure Outcome) :
    controller.Settled key result (controller.settle backoff key span result).1
      (controller.settle backoff key span result).2 := by
  have counted : controller.Alike ((controller.count span result).forget key) := ⟨rfl, rfl, rfl, rfl, rfl, rfl⟩
  unfold settle
  cases result with
  | ok outcome => exact counted.settled none (by simp)
  | error failure =>
    dsimp only
    split
    next retryable =>
      let failed : Controller :=
        { controller.count span (.error failure) with
          queue := ((controller.count span (.error failure)).queue.fail backoff key).2 }
      have alike : controller.Alike failed := ⟨rfl, rfl, rfl, rfl, rfl, rfl⟩
      unfold retryLater
      dsimp only
      split
      next => exact alike.settled_add
      next =>
        refine alike.settled _ ?_
        intro _ _ _ still
        have still : failed.queue.closed = false := still
        simpa [failed] using still
    next final =>
      refine counted.settled none ?_
      intro other same retryable
      cases same
      exact absurd retryable final

end Sync.Controller

end VipKeeper
