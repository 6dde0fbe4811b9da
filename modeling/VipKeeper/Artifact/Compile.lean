import VipKeeper.Artifact.Block
import VipKeeper.Router.Instance
import VipKeeper.Service.Server

/-! The configuration of the daemon for one router instance and its virtual servers. Equal inputs give the
same text. -/

namespace VipKeeper.Artifact

def healthCheckPort : Nat := 80
def healthCheckTimeout : Nat := 3
def delayLoop : Nat := 5
def persistenceTimeout : Nat := 360

/-- A statement of a keyword and a number. -/
def setting (keyword : String) (n : Nat) : Item :=
  .statement (keyword ++ " " ++ toString n)

def addressList (addresses : List Address) : List Item :=
  addresses.map (fun address => .statement address.text)

def unicastItems : Option Unicast → List Item
  | none => []
  | some unicast =>
    [.statement ("unicast_src_ip " ++ unicast.source.text), .block "unicast_peer" (addressList unicast.peers)]

/-- An instance starts as a backup and never takes the mastership from another. -/
def instanceBlock (router : Instance) : Item :=
  .block ("vrrp_instance " ++ router.name) (
    [.statement "state BACKUP",
      .statement ("interface " ++ router.interface),
      setting "virtual_router_id" router.routerId.toNat,
      setting "priority" router.priority.toNat,
      setting "advert_int" router.advertSeconds,
      .statement "nopreempt",
      .block "track_interface" [.statement router.interface]] ++
    unicastItems router.unicast ++
    [.block "virtual_ipaddress" (addressList router.addresses)])

def realServerBlock (server : RealServer) : Item :=
  .block ("real_server " ++ server.address.text ++ " " ++ toString server.port.toNat) [
    setting "weight" server.weight.toNat,
    .block "TCP_CHECK" [setting "connect_port" healthCheckPort, setting "connect_timeout" healthCheckTimeout]]

def virtualServerBlock (server : VirtualServer) : Item :=
  .block ("virtual_server fwmark " ++ toString server.fwmark.toNat) (
    [setting "delay_loop" delayLoop,
      .statement ("lvs_sched " ++ server.scheduler.name),
      .statement "lvs_method DR",
      setting "persistence_timeout" persistenceTimeout,
      .statement ("protocol " ++ server.protocol.name)] ++
    server.realServers.flatMap (fun real => [.gap, realServerBlock real]))

/-- The daemon reports changes of role to a pipe, if one is named. -/
def reportItems : Option String → List Item
  | none => []
  | some path => [.block "global_defs" [.statement ("notify_fifo " ++ path)], .gap]

def items (reportPath : Option String) (router : Instance) (servers : List VirtualServer) : List Item :=
  reportItems reportPath ++ instanceBlock router :: servers.flatMap (fun server => [.gap, virtualServerBlock server])

def compile (reportPath : Option String) (router : Instance) (servers : List VirtualServer) : String :=
  Item.render (items reportPath router servers)

end VipKeeper.Artifact
