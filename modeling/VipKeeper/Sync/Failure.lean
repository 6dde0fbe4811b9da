import VipKeeper.LoadBalancer.Validation

/-! Why a pass, or the start of the program, fails. -/

namespace VipKeeper

inductive Failure where
  | invalid (problems : List LoadBalancer.Problem)
  | store (cause : Fault)
  | membership (cause : Fault)
  | install (cause : Fault)
  | reload (cause : Fault)
  | panicked (detail : String)
  | startup (detail : String)
  deriving DecidableEq

namespace Failure

def kind : Failure → String
  | invalid _ => "validation"
  | store _ => "store"
  | membership _ => "membership"
  | install _ => "install"
  | reload _ => "reload"
  | panicked _ => "panic"
  | startup _ => "startup"

/-- A declaration does not become valid by waiting, nor does a failed start mend itself. -/
def isRetryable : Failure → Bool
  | invalid _ | startup _ => false
  | _ => true

def message : Failure → String
  | invalid problems => "invalid desired state: " ++ LoadBalancer.Problem.messages problems
  | store cause => "failed to fetch desired state: " ++ cause.message
  | membership cause => "failed to read cluster membership: " ++ cause.message
  | install cause => "failed to install configuration: " ++ cause.message
  | reload cause => "failed to reload keepalived: " ++ cause.message
  | panicked detail => "sync panicked: " ++ detail
  | startup detail => "startup failed: " ++ detail

end Failure

end VipKeeper
