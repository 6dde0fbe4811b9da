/-! What can go wrong outside the program: in files, in the kernel's interfaces, in the daemon. -/

namespace VipKeeper

/-- A failure of something the program uses, with a detail text. Of a document that is no readable YAML only
that fact is kept. -/
inductive Fault where
  | io (detail : String)
  | netlink (detail : String)
  | ipvs (detail : String)
  | vrrp (detail : String)
  | neighbor (detail : String)
  | document
  | other (detail : String)
  deriving DecidableEq

namespace Fault

def message : Fault → String
  | io detail => "IO error: " ++ detail
  | netlink detail => "Netlink error: " ++ detail
  | ipvs detail => "IPVS error: " ++ detail
  | vrrp detail => "VRRP error: " ++ detail
  | neighbor detail => "Neighbor table error: " ++ detail
  | document => "YAML error: malformed document"
  | other detail => "Unknown error: " ++ detail

end Fault

/-- How something that the program uses goes wrong: it reports a fault, or it breaks off. -/
inductive Mishap where
  | fault (cause : Fault)
  | panic (words : String)
  deriving DecidableEq

/-- Why the system refuses an operation on a file. -/
inductive FileProblem where
  | missing
  | notDirectory
  | isDirectory
  | nameTooLong
  | invalid
  | notText
  deriving DecidableEq

namespace FileProblem

def message : FileProblem → String
  | missing => "No such file or directory (os error 2)"
  | notDirectory => "Not a directory (os error 20)"
  | isDirectory => "Is a directory (os error 21)"
  | nameTooLong => "File name too long (os error 36)"
  | invalid => "Invalid argument (os error 22)"
  | notText => "stream did not contain valid UTF-8"

def fault (problem : FileProblem) : Fault :=
  .io problem.message

end FileProblem

end VipKeeper
