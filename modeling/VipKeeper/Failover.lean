import VipKeeper.Metrics.Basic
import VipKeeper.Neighbor.Invalidation
import VipKeeper.Router.Role

/-! What a node does when its role changes. A new master removes the neighbor entries of its addresses. -/

namespace VipKeeper.Failover

/-- The kind under which failed and incomplete invalidations are counted. -/
def errorKind : String := "neighbor"

/-- Takes note of how an invalidation ended. -/
def conclude (metrics : Metrics) : Except Mishap Neighbor.Tally → Metrics × Option Neighbor.Tally
  | .ok tally =>
    let metrics := metrics.countInvalidations tally.removed
    (if tally.failed = 0 then metrics else metrics.countError errorKind, some tally)
  | .error _ => (metrics.countError errorKind, none)

variable {m : Type → Type} [Monad m]

/-- Handles a change of role. A backup leaves the neighbor table alone. -/
def handle (invalidation : m (Except Mishap Neighbor.Tally)) (metrics : Metrics) (transition : Transition) :
    m (Metrics × Option Neighbor.Tally) :=
  let metrics := metrics.countTransition transition.name
  match transition with
  | .becameBackup => pure (metrics, none)
  | .becameMaster => do return conclude metrics (← invalidation)

/-- Handles changes of role in order. -/
def handleAll (invalidation : m (Except Mishap Neighbor.Tally)) (metrics : Metrics) :
    List Transition → m Metrics
  | [] => pure metrics
  | transition :: rest => do
    let (metrics, _) ← handle invalidation metrics transition
    handleAll invalidation metrics rest

end VipKeeper.Failover
