import VipKeeper.Net.Address
import VipKeeper.Service.Scheduler

/-! Virtual servers of the kernel's load balancer and the real servers behind them. -/

namespace VipKeeper

inductive Protocol where
  | tcp
  | udp
  deriving DecidableEq

namespace Protocol

def name : Protocol → String
  | tcp => "TCP"
  | udp => "UDP"

/-- A protocol is named in capitals or in lower case, not in a mixture. -/
def ofName? : String → Option Protocol
  | "TCP" | "tcp" => some tcp
  | "UDP" | "udp" => some udp
  | _ => none

def rank : Protocol → Nat
  | tcp => 0
  | udp => 1

/-- TCP comes before UDP. -/
instance : Ranked Protocol where
  before a b := decide (a.rank < b.rank)
  irrefl a := by simp
  trans := by simp only [decide_eq_true_eq]; omega
  total := by intro a b; cases a <;> cases b <;> simp [rank]

end Protocol

/-- Port 0 stands for the port of the service, and a server of weight 0 gets no new connections. -/
structure RealServer where
  address : Address
  port : UInt16
  weight : UInt32
  deriving DecidableEq

namespace RealServer

def isDrained (server : RealServer) : Bool :=
  server.weight == 0

def text (server : RealServer) : String :=
  server.address.text ++ ":" ++ toString server.port.toNat ++
    " (weight " ++ toString server.weight.toNat ++ ")"

end RealServer

/-- A service on a firewall mark. -/
structure VirtualServer where
  fwmark : UInt32
  protocol : Protocol
  scheduler : Scheduler
  realServers : List RealServer
  deriving DecidableEq

namespace VirtualServer

def text (server : VirtualServer) : String :=
  "FWM " ++ toString server.fwmark.toNat ++ " " ++ server.protocol.name ++
    " (" ++ server.scheduler.name ++ ")"

end VirtualServer

end VipKeeper
