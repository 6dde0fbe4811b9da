import VipKeeper.LoadBalancer.Basic

/-! Notifications that something has changed. -/

namespace VipKeeper

/-- A change of one load balancer. Of one that vanished unobserved the last known state may be missing. -/
inductive Change where
  | added (balancer : LoadBalancer)
  | updated (old new : LoadBalancer)
  | deleted (balancer : LoadBalancer)
  | vanished (key : ObjectKey) (last : Option LoadBalancer)
  deriving DecidableEq

namespace Change

def key : Change → ObjectKey
  | added balancer | deleted balancer | updated _ balancer => balancer.key
  | vanished key _ => key

/-- The object that the change is about, as far as it is known. -/
def uid? : Change → Option String
  | added balancer | deleted balancer | updated _ balancer => some balancer.uid
  | vanished _ last => last.map LoadBalancer.uid

/-- An update between states of one version says only that the object is still there. -/
def isResync : Change → Bool
  | updated old new => decide (old.version = new.version)
  | _ => false

end Change

inductive Event where
  | balancer (change : Change)
  | membership
  deriving DecidableEq

end VipKeeper
