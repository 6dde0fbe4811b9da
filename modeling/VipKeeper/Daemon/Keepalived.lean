import VipKeeper.Host.Files
import VipKeeper.Sync.Failure
import VipKeeper.Text.Blank
import VipKeeper.Text.Numeral
import VipKeeper.Text.Quoted

/-! The daemon that is configured by a file and known by the number of its process, which stands in another
file. -/

namespace VipKeeper

/-- The files of a host and the processes that run on it. -/
structure Host where
  files : Files
  processes : List Int

structure Keepalived where
  configPath : String
  pidPath : String
  deriving DecidableEq

namespace Keepalived

/-- Process numbers have 32 binary digits, the first of which is a sign. -/
def isProcessNumber (n : Int) : Bool :=
  decide (Int32.minValue.toInt ≤ n) && decide (n ≤ Int32.maxValue.toInt)

/-- Reads the number of the process, with white space around it. -/
def pidOfText (path text : String) : Except Fault Int :=
  match (Text.integer? (Text.trimBy Text.isBlank text.toList)).filter isProcessNumber with
  | none => .error (.other ("pid file " ++ path ++ " does not contain a pid: " ++ Text.quoted (Text.trim text)))
  | some pid => if 0 < pid then .ok pid else .error (.other ("invalid pid " ++ toString pid))

def pid (daemon : Keepalived) (files : Files) : Except Fault Int :=
  match files.readText daemon.pidPath with
  | .error problem =>
    .error (.other ("failed to read pid file " ++ daemon.pidPath ++ ": " ++ problem.message))
  | .ok text => pidOfText daemon.pidPath text

def noProcess : String := "ESRCH: No such process"

def title (pid : Int) : String :=
  "keepalived (pid " ++ toString pid ++ ")"

/-- Makes sure that the daemon runs. -/
def check (daemon : Keepalived) (host : Host) : Except Failure Unit :=
  match daemon.pid host.files with
  | .error fault => .error (.startup fault.message)
  | .ok pid =>
    if pid ∈ host.processes then .ok ()
    else .error (.startup (title pid ++ " is not running: " ++ noProcess))

/-- Replaces the configuration file. -/
def install (daemon : Keepalived) (text : String) (host : Host) : Except Fault Unit × Host :=
  let (files, result) := host.files.replace daemon.configPath text.toUTF8.toList
  (result.mapError FileProblem.fault, { host with files := files })

/-- Tells the daemon to read its configuration again. It may have another process by now. -/
def reload (daemon : Keepalived) (host : Host) : Except Fault Unit :=
  match daemon.pid host.files with
  | .error fault => .error fault
  | .ok pid =>
    if pid ∈ host.processes then .ok () else .error (.other ("failed to signal " ++ title pid ++ ": " ++ noProcess))

def installAndReload (daemon : Keepalived) (text : String) (host : Host) : Except Failure Unit × Host :=
  match daemon.install text host with
  | (.error fault, host) => (.error (.install fault), host)
  | (.ok (), host) => ((daemon.reload host).mapError .reload, host)

end Keepalived

end VipKeeper
