import VipKeeper.Daemon.Keepalived
import VipKeeper.LoadBalancer.Source
import VipKeeper.Router.Watcher

/-! Rehearsals on the files of a host: of the file with the declared state, of the daemon, and of the pipe with
its reports. -/

namespace VipKeeper.Rehearsal

/-! ### The file with the declared state -/

/-- The known document is there while the file is watched. -/
structure SourceStage where
  files : Files
  path : String
  known : Option SourceDocument
  received : Bool

inductive SourceStep where
  | write (bytes : List UInt8)
  | remove
  | object (key : ObjectKey)
  | membership
  | watch
  | poll
  | deafen
  | cancel

inductive SourceAnswer where
  | nothing
  | object (result : Except Fault (Option LoadBalancer))
  | membership (result : Except Fault Membership)
  | events (events : List Event)

namespace SourceStage

/-- Looks at the file. Events that nobody receives end the watch. -/
def pollFrom (stage : SourceStage) (known : SourceDocument) : SourceStage × SourceAnswer :=
  let (next, events) := Source.poll stage.files stage.path known
  if stage.received ∨ events.isEmpty then ({ stage with known := some next }, .events events)
  else ({ stage with known := none }, .events [])

def perform (stage : SourceStage) : SourceStep → SourceStage × SourceAnswer
  | .write bytes => ({ stage with files := stage.files.put stage.path (.file bytes) }, .nothing)
  | .remove => ({ stage with files := stage.files.remove stage.path }, .nothing)
  | .object key => (stage, .object (Source.object stage.files stage.path key))
  | .membership => (stage, .membership (Source.membership stage.files stage.path))
  | .watch => stage.pollFrom .empty
  | .poll => stage.known.elim (stage, .events []) stage.pollFrom
  | .deafen => ({ stage with received := false }, .nothing)
  | .cancel => ({ stage with known := none }, .nothing)

end SourceStage

/-! ### The daemon -/

/-- The daemon is opened once it has been found to run. -/
structure DaemonStage where
  host : Host
  daemon : Keepalived
  opened : Bool

inductive DaemonStep where
  | write (path : String) (bytes : List UInt8)
  | remove (path : String)
  | makeDirectory (path : String)
  | check
  | replace (path : String) (bytes : List UInt8)
  | install (text : String)
  | reload
  | installAndReload (text : String)

inductive DaemonAnswer where
  | nothing
  | notOpen
  | opened
  | plain (result : Except Fault Unit)
  | result (result : Except Failure Unit)

namespace DaemonStage

def withFiles (stage : DaemonStage) (files : Files) : DaemonStage :=
  { stage with host := { stage.host with files := files } }

def ifOpened (stage : DaemonStage) (rest : DaemonStage × DaemonAnswer) : DaemonStage × DaemonAnswer :=
  if stage.opened then rest else (stage, .notOpen)

def perform (stage : DaemonStage) : DaemonStep → DaemonStage × DaemonAnswer
  | .write path bytes => (stage.withFiles (stage.host.files.put path (.file bytes)), .nothing)
  | .remove path => (stage.withFiles (stage.host.files.remove path), .nothing)
  | .makeDirectory path => (stage.withFiles (stage.host.files.put path .directory), .nothing)
  | .check =>
    match stage.daemon.check stage.host with
    | .ok () => ({ stage with opened := true }, .opened)
    | .error failure => (stage, .result (.error failure))
  | .replace path bytes =>
    let (files, result) := stage.host.files.replace path bytes
    (stage.withFiles files, .plain (result.mapError FileProblem.fault))
  | .install text =>
    let (result, host) := stage.daemon.install text stage.host
    stage.ifOpened ({ stage with host := host }, .plain result)
  | .reload => stage.ifOpened (stage, .plain (stage.daemon.reload stage.host))
  | .installAndReload text =>
    let (result, host) := stage.daemon.installAndReload text stage.host
    stage.ifOpened ({ stage with host := host }, .result result)

end DaemonStage

/-! ### The pipe -/

/-- What is written to the pipe waits there until the watcher reads it. -/
structure PipeStage where
  now : Nat
  files : Files
  path : String
  waiting : List UInt8
  watcher : Watcher
  received : Bool
  sent : List Transition

inductive PipeStep where
  | write (bytes : List UInt8)
  | sleep (millis : Nat)
  | remove
  | file
  | deafen
  | cancel

namespace PipeStage

/-- What lies at the path of the pipe. -/
def content? (stage : PipeStage) : Option Content :=
  (stage.files.find stage.path).toOption.join

def read (stage : PipeStage) : PipeStage :=
  let (watcher, waiting, sent) := stage.watcher.read stage.received stage.now stage.waiting
  { stage with watcher := watcher, waiting := waiting, sent := stage.sent ++ sent }

/-- Opens the pipe again. What waits in it is lost only if the pipe had to be made anew. -/
def reopen (stage : PipeStage) : PipeStage :=
  match ReportPipe.ensure stage.files stage.path with
  | .error _ =>
    { stage with watcher := { stage.watcher with watching := .reopening (stage.now + Watcher.reopenDelay) } }
  | .ok files =>
    { stage with
      files := files
      waiting := if stage.content? = some Content.pipe then stage.waiting else []
      watcher := { stage.watcher with watching := .reading } }.read

/-- Lets time pass until a moment. -/
def pass (moment : Nat) : Nat → PipeStage → PipeStage
  | 0, stage => stage
  | turns + 1, stage =>
    match stage.watcher.watching with
    | .reopening due =>
      if due ≤ moment then pass moment turns { stage with now := due }.reopen else { stage with now := moment }
    | _ => { stage with now := moment }

def sleep (stage : PipeStage) (millis : Nat) : PipeStage :=
  stage.pass (stage.now + millis) (millis + 1)

/-- The time that passes after each step, in milliseconds. -/
def pause : Nat := 3

def stop (stage : PipeStage) : PipeStage :=
  { stage with watcher := { stage.watcher with watching := .over } }

def act (stage : PipeStage) : PipeStep → PipeStage
  | .write bytes =>
    if stage.content? = some Content.pipe then { stage with waiting := stage.waiting ++ bytes }.read else stage
  | .sleep millis => stage.sleep millis
  | .remove => { stage with files := stage.files.remove stage.path }
  | .file => { stage with files := stage.files.put stage.path (.file []) }
  | .deafen => { stage with received := false }
  | .cancel => stage.stop

def perform (stage : PipeStage) (step : PipeStep) : PipeStage :=
  (act { stage with sent := [] } step).sleep pause

end PipeStage

end VipKeeper.Rehearsal
