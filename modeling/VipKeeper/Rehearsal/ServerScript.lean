import VipKeeper.Daemon.Keepalived
import VipKeeper.LoadBalancer.Source
import VipKeeper.Rehearsal.Crew
import VipKeeper.Router.Watcher

/-! Rehearsals of the whole program on the files of a host. -/

namespace VipKeeper.Rehearsal

open Sync

/-- Where the program finds its files, and what it manages. -/
structure Plant where
  daemon : Keepalived
  sourcePath : String
  site : Site
  target : ObjectKey
  workers : Nat

namespace Plant

/-- A pass on the files of a host. -/
def surroundings (plant : Plant) : Surroundings (StateM Host) where
  object key host := ((Source.object host.files plant.sourcePath key).mapError .fault, host)
  membership host := ((Source.membership host.files plant.sourcePath).mapError .fault, host)
  install text host :=
    let (result, host) := plant.daemon.install text host
    (result.mapError .fault, host)
  reload host := ((plant.daemon.reload host).mapError .fault, host)

/-- Makes the pipe for reports, if one is asked for, and opens it for the router instance of the target. -/
def openWatcher (plant : Plant) (files : Files) : Except Failure (Files × Option Watcher) :=
  match plant.site.reportPath with
  | none => .ok (files, none)
  | some path =>
    match ReportPipe.ensure files path with
    | .ok files => .ok (files, some (.start (LoadBalancer.instanceName plant.target)))
    | .error fault => .error (.startup ("cannot open notify FIFO " ++ path ++ ": " ++ fault.message))

/-- The checks before anything is started, and the files after them. -/
def open_ (plant : Plant) (host : Host) : Except Failure Host :=
  match plant.daemon.check host with
  | .error failure => .error failure
  | .ok () => (plant.openWatcher host.files).map (fun (files, _) => { host with files := files })

end Plant

structure ServerStage where
  plant : Plant
  crew : Crew Host
  known : SourceDocument

inductive ServerStep where
  | write (path : String) (bytes : List UInt8)
  | remove (path : String)
  | look

namespace ServerStage

/-- The time between two looks at the file with the declared state, in milliseconds. -/
def pollInterval : Nat := 2000

/-- Looks at the file with the declared state. All events are queued before any worker goes on. -/
def poll (stage : ServerStage) : ServerStage :=
  let (known, events) := Source.poll stage.crew.world.files stage.plant.sourcePath stage.known
  { stage with known := known, crew := Crew.play.settle (events.foldl Crew.handle stage.crew) }

def start (plant : Plant) (host : Host) : ServerStage :=
  let crew := Crew.start plant.surroundings host plant.site .default plant.target
  let crew := (List.range (max plant.workers 1)).foldl (fun crew _ => crew.hire true) crew
  poll ⟨plant, Crew.play.settle crew, .empty⟩

def withFiles (stage : ServerStage) (change : Files → Files) : ServerStage :=
  let host := stage.crew.world
  { stage with crew := { stage.crew with world := { host with files := change host.files } } }

def act (stage : ServerStage) : ServerStep → ServerStage
  | .write path bytes => stage.withFiles (fun files => files.put path (.file bytes))
  | .remove path => stage.withFiles (fun files => files.remove path)
  | .look => stage

/-- After each step time passes until the next look at the file. -/
def perform (stage : ServerStage) (step : ServerStep) : ServerStage :=
  let stage := stage.act step
  poll { stage with crew := Crew.play.sleepUntil stage.crew (stage.crew.desk.now + pollInterval) }

end ServerStage

end VipKeeper.Rehearsal
