import VipKeeper.Artifact.Compile
import VipKeeper.LoadBalancer.Resolution
import VipKeeper.Sync.Failure

/-! One pass: from the declared state of a load balancer to the configuration of the daemon.

A pass asks its surroundings for the object, then for the nodes of the cluster, and installs a configuration
only if it differs from the last one that was installed for the object. Each stage is a function of its own; a
pass is the stages in order. -/

namespace VipKeeper

/-- A fault gets the name of what was tried. -/
def Failure.ofMishap (tried : Fault → Failure) : Mishap → Failure
  | .fault cause => tried cause
  | .panic words => .panicked words

namespace Sync

/-- What a node itself contributes to its configuration. -/
structure Site where
  address : Option Address
  reportPath : Option String
  deriving DecidableEq

/-- What a pass comes to that does not fail. -/
inductive Outcome where
  | installed
  | unchanged
  | deleted
  | stale
  deriving DecidableEq

namespace Outcome

def name : Outcome → String
  | installed => "installed"
  | unchanged => "unchanged"
  | deleted => "deleted"
  | stale => "stale"

end Outcome

/-- What was last installed for each object, and the addresses that this node would own as a master. -/
structure Record where
  artifacts : OrderedMap ObjectKey String
  owned : List Address
  deriving DecidableEq

namespace Record

def empty : Record := ⟨.empty, []⟩

instance : Inhabited Record := ⟨empty⟩

/-- An object that is gone is managed no longer. -/
def drop (record : Record) (key : ObjectKey) : Record :=
  ⟨record.artifacts.erase key, []⟩

end Record

/-! ### The stages of a pass -/

/-- What the object of a pass calls for. -/
inductive Aim where
  | deleted
  | stale
  | plan (accepted : LoadBalancer.Accepted) (unicast : Option Unicast)
  deriving DecidableEq

/-- A pass that was triggered by another object of the same key leaves the object alone. -/
def Aim.ofObject (site : Site) (trigger : Option String) : Option LoadBalancer → Except Failure Aim
  | none => .ok .deleted
  | some balancer =>
    if trigger.all (fun uid => decide (uid = balancer.uid)) then
      match balancer.spec.validate with
      | .error problems => .error (.invalid problems)
      | .ok accepted =>
        match accepted.unicast site.address with
        | .error problems => .error (.invalid problems)
        | .ok unicast => .ok (.plan accepted unicast)
    else .ok .stale

/-- A configuration that is ready to be installed, and the addresses that it lets this node own. -/
structure Draft where
  artifact : String
  addresses : List Address
  deriving DecidableEq

/-- The configuration for an accepted load balancer in a cluster. -/
def Draft.make (site : Site) (key : ObjectKey) (accepted : LoadBalancer.Accepted) (unicast : Option Unicast)
    (membership : Membership) : Except Failure Draft :=
  let router := accepted.router key unicast
  match router.problem? with
  | some problem => .error (.invalid [.router problem])
  | none =>
    .ok ⟨Artifact.compile site.reportPath router (accepted.virtualServers membership), accepted.addresses⟩

namespace Record

def holds (record : Record) (key : ObjectKey) (draft : Draft) : Bool :=
  decide (record.artifacts.get? key = some draft.artifact)

/-- Takes note of an installed configuration. -/
def note (record : Record) (key : ObjectKey) (draft : Draft) : Record :=
  ⟨record.artifacts.insert key draft.artifact, draft.addresses⟩

end Record

/-! ### Passes -/

/-- What a pass calls, and how each call can end. -/
structure Surroundings (m : Type → Type) where
  object : ObjectKey → m (Except Mishap (Option LoadBalancer))
  membership : m (Except Mishap Membership)
  install : String → m (Except Mishap Unit)
  reload : m (Except Mishap Unit)

/-- What a pass has come to when nothing is installed yet. -/
inductive Verdict where
  | over (outcome : Outcome)
  | install (draft : Draft)
  deriving DecidableEq

variable {m : Type → Type} [Monad m]

/-- The part of a pass that asks for the membership. -/
def prepareDraft (surroundings : Surroundings m) (site : Site) (record : Record) (key : ObjectKey)
    (accepted : LoadBalancer.Accepted) (unicast : Option Unicast) : m (Except Failure Verdict) := do
  match ← surroundings.membership with
  | .error mishap => return .error (.ofMishap .membership mishap)
  | .ok membership =>
    match Draft.make site key accepted unicast membership with
    | .error failure => return .error failure
    | .ok draft => return .ok (if record.holds key draft then .over .unchanged else .install draft)

/-- The part of a pass before anything is installed. -/
def prepare (surroundings : Surroundings m) (site : Site) (record : Record) (key : ObjectKey)
    (trigger : Option String) : m (Record × Except Failure Verdict) := do
  match ← surroundings.object key with
  | .error mishap => return (record, .error (.ofMishap .store mishap))
  | .ok found =>
    match Aim.ofObject site trigger found with
    | .error failure => return (record, .error failure)
    | .ok .deleted => return (record.drop key, .ok (.over .deleted))
    | .ok .stale => return (record, .ok (.over .stale))
    | .ok (.plan accepted unicast) =>
      return (record, ← prepareDraft surroundings site record key accepted unicast)

/-- The part of a pass that installs a configuration. Only one that the daemon has been told to read is
recorded. -/
def conclude (surroundings : Surroundings m) (record : Record) (key : ObjectKey) (draft : Draft) :
    m (Record × Except Failure Outcome) := do
  match ← surroundings.install draft.artifact with
  | .error mishap => return (record, .error (.ofMishap .install mishap))
  | .ok () =>
    match ← surroundings.reload with
    | .error mishap => return (record, .error (.ofMishap .reload mishap))
    | .ok () => return (record.note key draft, .ok .installed)

/-- A whole pass. -/
def pass (surroundings : Surroundings m) (site : Site) (record : Record) (key : ObjectKey)
    (trigger : Option String) : m (Record × Except Failure Outcome) := do
  match ← prepare surroundings site record key trigger with
  | (record, .error failure) => return (record, .error failure)
  | (record, .ok (.over outcome)) => return (record, .ok outcome)
  | (record, .ok (.install draft)) => conclude surroundings record key draft

end Sync

end VipKeeper
