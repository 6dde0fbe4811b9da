import VipKeeper.Document.Value
import VipKeeper.LoadBalancer.Basic

/-! Load balancers and nodes as document trees: how they are read, and the one form in which they are
written. -/

namespace VipKeeper

open Format

def Protocol.read? {ν : Type} (format : Format ν) (value : ν) : Option Protocol :=
  (format.variant? value).bind Protocol.ofName?

/-- A text table with its entries in key order. -/
def OrderedMap.value {κ α : Type} [Ranked κ] (key : κ → String) (write : α → Value) (table : OrderedMap κ α) :
    Value :=
  .record (table.entries.map (fun entry => (key entry.1, write entry.2)))

namespace LoadBalancer

/-! ### Reading -/

variable {ν : Type} (format : Format ν)

def labels? : ν → Option (OrderedMap String String) :=
  format.table? format.text? format.text?

def Declared.fields : List Field :=
  [.named "protocol", .named "scheduler", .named "backendSelector", .named "weights"]

def Declared.read? (value : ν) : Option Declared := do
  let member ← format.record? Declared.fields value
  return ⟨← required (Protocol.read? format) (member "protocol"),
    ← required format.text? (member "scheduler"),
    ← defaulted .empty (labels? format) (member "backendSelector"),
    ← defaulted .empty (format.table? format.address? format.word?) (member "weights")⟩

def Election.defaultPriority : UInt32 := 100

def Election.fields : List Field :=
  [.named "virtualRouterId", .named "priority", .named "unicastPeers"]

def Election.read? (value : ν) : Option Election := do
  let member ← format.record? Election.fields value
  return ⟨← required format.word? (member "virtualRouterId"),
    ← defaulted Election.defaultPriority format.word? (member "priority"),
    ← defaulted none (format.option? (format.list? format.address?)) (member "unicastPeers")⟩

def Spec.defaultFwmark : UInt32 := 1

def Spec.fields : List Field :=
  [⟨"vips", ["virtualIPs"]⟩, .named "interface", .named "vrrp", .named "fwmark", .named "virtualServers"]

def Spec.read? (value : ν) : Option Spec := do
  let member ← format.record? Spec.fields value
  return ⟨← required (format.list? format.address?) (member "vips"),
    ← required format.text? (member "interface"),
    ← required (Election.read? format) (member "vrrp"),
    ← defaulted Spec.defaultFwmark format.word? (member "fwmark"),
    ← defaulted [] (format.list? (Declared.read? format)) (member "virtualServers")⟩

def metadataFields : List Field :=
  [.named "namespace", .named "name", .named "uid", .named "resourceVersion"]

def fields : List Field :=
  [.named "metadata", .named "spec"]

def read? (value : ν) : Option LoadBalancer := do
  let member ← format.record? LoadBalancer.fields value
  let metadata ← required (format.record? metadataFields) (member "metadata")
  return ⟨⟨← required format.text? (metadata "namespace"), ← required format.text? (metadata "name")⟩,
    ← required format.text? (metadata "uid"),
    ← defaulted "" format.text? (metadata "resourceVersion"),
    ← required (Spec.read? format) (member "spec")⟩

/-! ### Writing -/

def addressValue (address : Address) : Value :=
  .text address.text

def wordValue (word : UInt32) : Value :=
  .natural word.toNat

def labelsValue (labels : OrderedMap String String) : Value :=
  labels.value id .text

def Declared.value (service : Declared) : Value :=
  .record [("protocol", .text service.protocol.name), ("scheduler", .text service.scheduler),
    ("backendSelector", labelsValue service.selector),
    ("weights", service.weights.value Address.text wordValue)]

def Election.value (election : Election) : Value :=
  .record [("virtualRouterId", wordValue election.routerId), ("priority", wordValue election.priority),
    ("unicastPeers", match election.peers with
      | none => .null
      | some peers => .list (peers.map addressValue))]

def Spec.value (spec : Spec) : Value :=
  .record [("vips", .list (spec.addresses.map addressValue)), ("interface", .text spec.interface),
    ("vrrp", spec.election.value), ("fwmark", wordValue spec.fwmark),
    ("virtualServers", .list (spec.services.map Declared.value))]

def value (balancer : LoadBalancer) : Value :=
  .record [
    ("metadata", .record [("namespace", .text balancer.key.scope), ("name", .text balancer.key.name),
      ("uid", .text balancer.uid), ("resourceVersion", .text balancer.version)]),
    ("spec", balancer.spec.value)]

end LoadBalancer

namespace Node

def fields : List Field :=
  [.named "name", .named "address", .named "ready", .named "labels"]

def read? {ν : Type} (format : Format ν) (value : ν) : Option Node := do
  let member ← format.record? fields value
  return ⟨← required format.text? (member "name"), ← required format.address? (member "address"),
    ← required format.flag? (member "ready"),
    ← defaulted .empty (LoadBalancer.labels? format) (member "labels")⟩

def value (node : Node) : Value :=
  .record [("name", .text node.name), ("address", .text node.address.text), ("ready", .flag node.ready),
    ("labels", LoadBalancer.labelsValue node.labels)]

end Node

namespace Membership

def read? {ν : Type} (format : Format ν) (value : ν) : Option Membership := do
  let member ← format.record? [.named "nodes"] value
  return ⟨← defaulted [] (format.list? (Node.read? format)) (member "nodes")⟩

def value (membership : Membership) : Value :=
  .record [("nodes", .list (membership.nodes.map Node.value))]

end Membership

end VipKeeper
