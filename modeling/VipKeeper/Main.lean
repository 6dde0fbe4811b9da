import VipKeeper.Daemon.Keepalived
import VipKeeper.LoadBalancer.Source
import VipKeeper.Settings.Load
import VipKeeper.Sync.Controller

/-! The program: it keeps the configuration file of the daemon in step with the file that declares the state, and
prints the process that has to read it again. It starts only if the daemon runs. -/

namespace VipKeeper.Program

open Sync

/-- The directories that lead to a path. -/
def directories (path : String) : List String :=
  let names := Path.names path
  (List.range names.length).tail.map (fun count => Path.key (names.take count))

/-- Adds a file of this host, unless it cannot be read. -/
def readInto (files : Files) (path : String) : IO Files := do
  try
    let bytes ← IO.FS.readBinFile path
    let files := (directories path).foldl (fun files directory => files.put directory .directory) files
    return files.put path (.file bytes.toList)
  catch _ => return files

/-- Some files of this host as they are now. -/
def snapshot (paths : List String) : IO Files :=
  paths.foldlM readInto .empty

def loadSettings : IO (Except SettingsFault Settings) := do
  let named ← IO.getEnv "LB_SYNC_CONFIG"
  let home ← IO.getEnv "HOME"
  return Settings.load (← snapshot (named.toList ++ Settings.places home)) named home

/-- Prints a line at once. -/
def say (line : String) : IO Unit := do
  let out ← IO.getStdout
  out.putStrLn line
  out.flush

def daemon (settings : Settings) : Keepalived :=
  ⟨settings.daemon.configPath, settings.daemon.pidFile⟩

/-- Where a running process shows what it is doing. -/
def processPath (pid : Int) : String :=
  "/proc/" ++ toString pid ++ "/stat"

/-- This host as far as the daemon is concerned: the file with the number of its process, and that process if
it runs. -/
def host (daemon : Keepalived) : IO Host := do
  let files ← snapshot [daemon.pidPath]
  match daemon.pid files with
  | .error _ => return ⟨files, []⟩
  | .ok pid =>
    let shown ← snapshot [processPath pid]
    return ⟨files, if shown.isFile (processPath pid) then [pid] else []⟩

/-- A pass on the files of this host. -/
def surroundings (settings : Settings) : Surroundings IO where
  object key := do
    let path := settings.source.path
    return (Source.object (← snapshot [path]) path key).mapError .fault
  membership := do
    let path := settings.source.path
    return (Source.membership (← snapshot [path]) path).mapError .fault
  install text := do
    let path := settings.daemon.configPath
    try
      IO.FS.writeFile (Files.besidePath path) text
      IO.FS.rename (Files.besidePath path) path
      return .ok ()
    catch problem => return .error (.fault (.io (toString problem)))
  reload := do
    let daemon := daemon settings
    let host ← host daemon
    match daemon.reload host, daemon.pid host.files with
    | .ok (), .ok pid =>
      say ("reload " ++ Keepalived.title pid)
      return .ok ()
    | .error fault, _ | _, .error fault => return .error (.fault fault)

def sleep (span : Span) : IO Unit :=
  IO.sleep (min span.millisUp (UInt32.size - 1)).toUInt32

/-- What the program goes on with. -/
structure Running where
  controller : Controller
  record : Record
  known : SourceDocument

def start (settings : Settings) : Running :=
  ⟨.start settings.target, .empty, .empty⟩

/-- Does the pass for a key that waits, if any, and tells how long to wait before it is tried again. -/
def step (settings : Settings) (running : Running) : IO (Option (Running × Option Span)) := do
  match running.controller.queue.take? with
  | none => return none
  | some (key, queue) =>
    let controller := { running.controller with queue := queue }.withDepth
    let site : Site := ⟨settings.nodeAddress, settings.daemon.reportPath⟩
    let (record, result) ← pass (surroundings settings) site running.record key (controller.triggerFor key)
    match result with
    | .ok outcome => say (key.text ++ ": " ++ outcome.name)
    | .error failure => IO.eprintln (key.text ++ ": " ++ failure.message)
    let followed := (controller.countReload result).finish settings.sync.backoff key .zero result
    return some (⟨followed.controller, record, running.known⟩, followed.retry)

/-- Does what waits. A key that failed waits again after its span. -/
partial def drain (settings : Settings) (running : Running) : IO Running := do
  match ← step settings running with
  | none => return running
  | some (running, none) => drain settings running
  | some (running, some span) =>
    sleep span
    drain settings { running with controller := running.controller.enqueue.1 }

/-- Looks at the file with the declared state, again and again. -/
partial def watch (settings : Settings) (running : Running) : IO Unit := do
  let path := settings.source.path
  let (known, events) := Source.poll (← snapshot [path]) path running.known
  let controller := events.foldl (fun controller event => (controller.handle event).1) running.controller
  let running ← drain settings ⟨controller, running.record, known⟩
  sleep settings.source.pollInterval
  watch settings running

end VipKeeper.Program

def main : IO UInt32 := do
  match ← VipKeeper.Program.loadSettings with
  | .error fault =>
    IO.eprintln ("Configuration error: " ++ fault.message)
    return 1
  | .ok settings =>
    let daemon := VipKeeper.Program.daemon settings
    match daemon.check (← VipKeeper.Program.host daemon) with
    | .error failure =>
      IO.eprintln ("Error: " ++ failure.message)
      return 1
    | .ok () =>
      VipKeeper.Program.watch settings (VipKeeper.Program.start settings)
      return 0
