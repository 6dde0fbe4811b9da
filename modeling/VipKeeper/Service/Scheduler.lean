import VipKeeper.Fault
import VipKeeper.Text.Blank
import VipKeeper.Text.Quoted

/-! The scheduling algorithms of the kernel's load balancer. -/

namespace VipKeeper

inductive Scheduler where
  | roundRobin
  | weightedRoundRobin
  | leastConnection
  | weightedLeastConnection
  | localityBasedLeastConnection
  | localityBasedLeastConnectionReplication
  | destinationHashing
  | sourceHashing
  | shortestExpectedDelay
  | neverQueue
  | maglevHashing
  deriving DecidableEq

namespace Scheduler

/-- Every scheduler, in the order of the kernel's documentation. -/
def all : List Scheduler :=
  [roundRobin, weightedRoundRobin, leastConnection, weightedLeastConnection, localityBasedLeastConnection,
    localityBasedLeastConnectionReplication, destinationHashing, sourceHashing, shortestExpectedDelay,
    neverQueue, maglevHashing]

/-- The kernel's name of a scheduler. -/
def name : Scheduler → String
  | roundRobin => "rr"
  | weightedRoundRobin => "wrr"
  | leastConnection => "lc"
  | weightedLeastConnection => "wlc"
  | localityBasedLeastConnection => "lblc"
  | localityBasedLeastConnectionReplication => "lblcr"
  | destinationHashing => "dh"
  | sourceHashing => "sh"
  | shortestExpectedDelay => "sed"
  | neverQueue => "nq"
  | maglevHashing => "mh"

/-- The name of a scheduler in full words. -/
def title : Scheduler → String
  | roundRobin => "RoundRobin"
  | weightedRoundRobin => "WeightedRoundRobin"
  | leastConnection => "LeastConnection"
  | weightedLeastConnection => "WeightedLeastConnection"
  | localityBasedLeastConnection => "LocalityBasedLeastConnection"
  | localityBasedLeastConnectionReplication => "LocalityBasedLeastConnectionReplication"
  | destinationHashing => "DestinationHashing"
  | sourceHashing => "SourceHashing"
  | shortestExpectedDelay => "ShortestExpectedDelay"
  | neverQueue => "NeverQueue"
  | maglevHashing => "MaglevHashing"

/-- Reads a kernel name in any case, with white space around it. -/
def ofName? (text : String) : Option Scheduler :=
  let wanted := (Text.trim text).toList.map Char.toLower
  all.find? (fun scheduler => decide (scheduler.name.toList = wanted))

def read (text : String) : Except Fault Scheduler :=
  match ofName? text with
  | some scheduler => .ok scheduler
  | none => .error (.ipvs ("unknown scheduler " ++ Text.quoted text))

end Scheduler

end VipKeeper
