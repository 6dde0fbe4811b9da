import VipKeeper.LoadBalancer.Change
import VipKeeper.Metrics.Basic
import VipKeeper.Queue.WorkQueue
import VipKeeper.Sync.Pass

/-! From notifications to passes: which key is queued, what a pass is told, and what follows from its end. -/

namespace VipKeeper.Sync

/-- A controller manages one load balancer. The trigger is the `uid` of the object that the last notification
was about. -/
structure Controller where
  target : ObjectKey
  queue : WorkQueue ObjectKey
  trigger : Option String
  metrics : Metrics
  deriving DecidableEq

namespace Controller

def start (target : ObjectKey) : Controller :=
  ⟨target, .empty, none, .zero⟩

/-- Takes note of how many keys wait. -/
def withDepth (controller : Controller) : Controller :=
  { controller with metrics := controller.metrics.withDepth controller.queue.waiting.length }

/-- Queues the target. The second result tells whether it now waits for a worker. -/
def enqueue (controller : Controller) : Controller × Bool :=
  let (queue, notifies) := controller.queue.add controller.target
  ({ controller with queue := queue }.withDepth, notifies)

/-- The trigger after a change. It is forgotten only if nothing is known of the object that vanished. -/
def triggerAfter (change : Change) (trigger : Option String) : Option String :=
  match change, change.uid? with
  | _, some uid => some uid
  | .vanished _ _, none => none
  | _, none => trigger

/-- Queues the target for a notification that concerns it. -/
def handle (controller : Controller) : Event → Controller × Bool
  | .membership => controller.enqueue
  | .balancer change =>
    if change.key = controller.target ∧ change.isResync = false then
      { controller with trigger := triggerAfter change controller.trigger }.enqueue
    else (controller, false)

/-- What a pass for a key is told about the object. -/
def triggerFor (controller : Controller) (key : ObjectKey) : Option String :=
  if key = controller.target then controller.trigger else none

/-- What follows from the end of a pass: when to try again, if ever, and whether a key now waits for a worker. -/
structure Followed where
  controller : Controller
  retry : Option Span
  notifies : Bool

/-- The kind of outcome under which failed passes are counted. -/
def failedOutcome : String := "error"

/-- Takes a key back from the worker whose pass is over. -/
def release (controller : Controller) (key : ObjectKey) (retry : Option Span) : Followed :=
  let (queue, notifies) := controller.queue.done key
  ⟨{ controller with queue := queue }, retry, notifies⟩

/-- Tries again after a while; without any wait the key is queued at once, and a closed queue takes it no more. -/
def retryLater (controller : Controller) (backoff : Backoff) (key : ObjectKey) : Controller × Option Span :=
  let (span, queue) := controller.queue.fail backoff key
  if span.nanoseconds = 0 then ({ controller with queue := (queue.add key).1 }, none)
  else ({ controller with queue := queue }, if queue.closed then none else some span)

def forget (controller : Controller) (key : ObjectKey) : Controller :=
  { controller with queue := controller.queue.forget key }

/-- Counts the reload in a pass that installs. The pass does so itself as soon as the daemon is reloaded. -/
def countReload (controller : Controller) : Except Failure Outcome → Controller
  | .ok .installed => { controller with metrics := controller.metrics.countReload }
  | _ => controller

/-- Counts a pass by how it ended. -/
def count (controller : Controller) (span : Span) (result : Except Failure Outcome) : Controller :=
  { controller with metrics := match result with
    | .ok outcome => controller.metrics.countPass outcome.name span
    | .error failure => (controller.metrics.countPass failedOutcome span).countError failure.kind }

/-- Ends the pass for a key. Only a failure that may pass by itself is tried again. -/
def finish (controller : Controller) (backoff : Backoff) (key : ObjectKey) (span : Span)
    (result : Except Failure Outcome) : Followed :=
  let controller := controller.count span result
  match result with
  | .ok _ => (controller.forget key).release key none
  | .error failure =>
    if failure.isRetryable then
      let (controller, retry) := controller.retryLater backoff key
      controller.release key retry
    else (controller.forget key).release key none

end Controller

end VipKeeper.Sync
