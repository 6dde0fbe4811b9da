import VipKeeper.LoadBalancer.Basic
import VipKeeper.Router.Instance

/-! Which load balancers are accepted, and what is wrong with the others.

Every violated condition is reported, in the order of the members of the declaration. An accepted load
balancer can be turned into a configuration without any further check of its values. -/

namespace VipKeeper.LoadBalancer

inductive Problem where
  | noAddress
  | repeatedAddress (address : Address)
  | interfaceName (name : String)
  | routerId (given : UInt32)
  | priority (given : UInt32)
  | noPeer
  | fwmark
  | noService
  | repeatedProtocol (protocol : Protocol)
  | unknownScheduler (protocol : Protocol) (name : String)
  | noSourceAddress
  | router (problem : InstanceProblem)
  | remark (words : String)
  deriving DecidableEq

namespace Problem

def message : Problem → String
  | noAddress => "at least one virtual IP is required"
  | repeatedAddress address => "duplicate virtual IP " ++ address.text
  | interfaceName name =>
    "interface " ++ Text.quoted name ++ " is not a valid interface name (1 to " ++
      toString Interface.longestName ++
      " characters, no whitespace, '/', braces, quotes, '#' or '!')"
  | routerId given => "virtualRouterId must be between 1 and 255, got " ++ toString given.toNat
  | priority given =>
    "priority must be between 1 and " ++ toString Instance.highestPriority.toNat ++ ", got " ++
      toString given.toNat
  | noPeer => "unicastPeers must not be empty when set"
  | fwmark => "fwmark must be greater than 0"
  | noService => "at least one virtual server is required"
  | repeatedProtocol protocol => "duplicate virtual server for protocol " ++ protocol.name
  | unknownScheduler protocol name =>
    protocol.name ++ " virtual server: unknown scheduler " ++ Text.quoted name
  | noSourceAddress => "unicastPeers requires node.address to be configured"
  | router problem => problem.message
  | remark words => words

def messages (problems : List Problem) : String :=
  String.intercalate "; " (problems.map message)

end Problem

/-- A service with a scheduler that exists. -/
structure Service where
  protocol : Protocol
  scheduler : Scheduler
  selector : OrderedMap String String
  weights : OrderedMap Address UInt32
  deriving DecidableEq

/-- A specification that was accepted, its services in protocol order. -/
structure Accepted where
  addresses : List Address
  interface : String
  routerId : UInt8
  priority : UInt8
  peers : Option (List Address)
  fwmark : UInt32
  services : List Service
  deriving DecidableEq

/-- The values of a list that occur in it before, once for each repetition. -/
def repeated {α : Type} [DecidableEq α] (seen : List α) : List α → List α
  | [] => []
  | value :: rest => if value ∈ seen then value :: repeated seen rest else repeated (value :: seen) rest

def report (holds : Bool) (problem : Problem) : List Problem :=
  if holds then [problem] else []

def Declared.service? (declared : Declared) : Option Service :=
  (Scheduler.ofName? declared.scheduler).map (fun scheduler =>
    ⟨declared.protocol, scheduler, declared.selector, declared.weights⟩)

/-- The problems of services, after services with some protocols. -/
def serviceProblems (seen : List Protocol) : List Declared → List Problem
  | [] => []
  | declared :: rest =>
    report (decide (declared.protocol ∈ seen)) (.repeatedProtocol declared.protocol) ++
      report declared.service?.isNone (.unknownScheduler declared.protocol declared.scheduler) ++
      serviceProblems (declared.protocol :: seen) rest

namespace Spec

/-- Everything that is wrong with a specification. -/
def problems (spec : Spec) : List Problem :=
  report spec.addresses.isEmpty .noAddress ++
    (repeated [] spec.addresses).map .repeatedAddress ++
    report (!Interface.isName spec.interface) (.interfaceName spec.interface) ++
    report (spec.election.routerId == 0 || decide (255 < spec.election.routerId))
      (.routerId spec.election.routerId) ++
    report (spec.election.priority == 0 || decide (254 < spec.election.priority))
      (.priority spec.election.priority) ++
    report (spec.election.peers == some []) .noPeer ++
    report (spec.fwmark == 0) .fwmark ++
    report spec.services.isEmpty .noService ++
    serviceProblems [] spec.services

def inProtocolOrder (services : List Service) : List Service :=
  services.mergeSort (fun a b => decide (a.protocol.rank ≤ b.protocol.rank))

/-- The specification with its numbers and schedulers in their own types. -/
def accepted (spec : Spec) : Accepted :=
  ⟨spec.addresses, spec.interface, spec.election.routerId.toUInt8, spec.election.priority.toUInt8,
    spec.election.peers, spec.fwmark, inProtocolOrder (spec.services.filterMap Declared.service?)⟩

def validate (spec : Spec) : Except (List Problem) Accepted :=
  if spec.problems.isEmpty then .ok spec.accepted else .error spec.problems

end Spec

end VipKeeper.LoadBalancer
