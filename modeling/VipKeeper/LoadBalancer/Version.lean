import VipKeeper.Digest.SipHash
import VipKeeper.LoadBalancer.Document
import VipKeeper.Yaml.Text

/-! Versions of load balancers that are kept in a file. A load balancer that names no version gets one from
its content, so that it changes with the specification and with the object. -/

namespace VipKeeper

namespace LoadBalancer

/-- The text that stands for a specification. -/
def specText (balancer : LoadBalancer) : String :=
  Yaml.text balancer.spec.value

/-- A byte that occurs in no text; it ends the parts of what is digested. -/
def terminator : UInt8 := 0xFF

def digested (balancer : LoadBalancer) : List UInt8 :=
  balancer.specText.toUTF8.toList ++ terminator :: balancer.uid.toUTF8.toList ++ [terminator]

/-- The digest of the specification and the object, as sixteen hexadecimal digits. -/
def contentVersion (balancer : LoadBalancer) : String :=
  let digits := Nat.toDigits 16 (SipHash.digest ⟨1, 3⟩ 0 0 balancer.digested).toNat
  String.ofList (List.replicate (16 - digits.length) '0' ++ digits)

def withVersion (balancer : LoadBalancer) : LoadBalancer :=
  if balancer.version.isEmpty then { balancer with version := balancer.contentVersion } else balancer

end LoadBalancer

namespace SourceDocument

/-- Reads a document from the text of a file. -/
def parse (text : String) : Except Fault SourceDocument :=
  match Yaml.decode? SourceDocument.read? text with
  | some document => .ok { document with balancers := document.balancers.map LoadBalancer.withVersion }
  | none => .error .document

end SourceDocument

end VipKeeper
