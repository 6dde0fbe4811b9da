import VipKeeper.Host.Files
import VipKeeper.LoadBalancer.Version

/-! The file that declares all load balancers and the nodes of the cluster. Every question reads it anew. -/

namespace VipKeeper.Source

def load (files : Files) (path : String) : Except Fault SourceDocument :=
  match files.readText path with
  | .error problem => .error problem.fault
  | .ok text => SourceDocument.parse text

def object (files : Files) (path : String) (key : ObjectKey) : Except Fault (Option LoadBalancer) :=
  match load files path with
  | .error fault => .error fault
  | .ok document => .ok (document.get? key)

def membership (files : Files) (path : String) : Except Fault Membership :=
  match load files path with
  | .error fault => .error fault
  | .ok document => .ok document.membership

/-- Looks whether the file has changed since a document was read from it. A file that cannot be read counts as
unchanged. -/
def poll (files : Files) (path : String) (known : SourceDocument) : SourceDocument × List Event :=
  match load files path with
  | .error _ => (known, [])
  | .ok document => (document, known.diff document)

end VipKeeper.Source
