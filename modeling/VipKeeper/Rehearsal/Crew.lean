import VipKeeper.Rehearsal.Play
import VipKeeper.Sync.Controller

/-! Workers that drive a controller in rehearsed time. Installing a configuration takes a while; everything else
happens at one moment. -/

namespace VipKeeper.Rehearsal

open Sync

/-- What goes on beside the script. -/
inductive CrewTask where
  | worker (number : Nat)
  | retrying (key : ObjectKey) (span : Span)
  | adding (key : ObjectKey)
  deriving DecidableEq

/-- Where a worker is. One that has stopped knows whether its last look for work found any. -/
inductive Post where
  | looking
  | installing (key : ObjectKey) (draft : Draft)
  | stopped (found : Bool)

/-- A lasting worker goes on until the queue is closed; any other stops after one pass. -/
structure Worker where
  number : Nat
  lasting : Bool
  post : Post

/-- Workers are listed with the last one first. The delay is the time that installing takes, in milliseconds. -/
structure Crew (σ : Type) where
  desk : Desk CrewTask
  surroundings : Surroundings (StateM σ)
  world : σ
  site : Site
  backoff : Backoff
  controller : Controller
  record : Record
  workers : List Worker
  delay : Nat
  inFlight : Nat
  mostInFlight : Nat

namespace Crew

variable {σ : Type}

def start (surroundings : Surroundings (StateM σ)) (world : σ) (site : Site) (backoff : Backoff)
    (target : ObjectKey) : Crew σ :=
  ⟨.start, surroundings, world, site, backoff, .start target, .empty, [], 0, 0, 0⟩

def post? (crew : Crew σ) (number : Nat) : Option Post :=
  (crew.workers.find? (fun worker => worker.number == number)).map Worker.post

def withPost (crew : Crew σ) (number : Nat) (post : Post) : Crew σ :=
  { crew with workers := crew.workers.map (fun worker =>
      if worker.number = number then { worker with post := post } else worker) }

def isLasting (crew : Crew σ) (number : Nat) : Bool :=
  crew.workers.any (fun worker => worker.number == number && worker.lasting)

/-- Puts a worker to work. -/
def hire (crew : Crew σ) (lasting : Bool) : Crew σ :=
  let number := crew.workers.length
  { crew with
    workers := ⟨number, lasting, .looking⟩ :: crew.workers
    desk := crew.desk.call (.task (.worker number)) }

/-! ### The parts of a pass -/

def prepare (crew : Crew σ) (key : ObjectKey) (trigger : Option String) : Crew σ × Except Failure Verdict :=
  let ((record, verdict), world) :=
    (Sync.prepare crew.surroundings crew.site crew.record key trigger).run crew.world
  ({ crew with record := record, world := world }, verdict)

/-- Installing begins. -/
def begin (crew : Crew σ) : Crew σ :=
  { crew with inFlight := crew.inFlight + 1, mostInFlight := max crew.mostInFlight (crew.inFlight + 1) }

/-- Installing ends. -/
def conclude (crew : Crew σ) (key : ObjectKey) (draft : Draft) : Crew σ × Except Failure Outcome :=
  let ((record, result), world) :=
    (Sync.conclude crew.surroundings crew.record key draft).run crew.world
  ({ crew with
    record := record
    world := world
    controller := crew.controller.countReload result
    inFlight := crew.inFlight - 1 }, result)

/-- The pass for a key is over. -/
def finish (crew : Crew σ) (key : ObjectKey) (result : Except Failure Outcome) : Crew σ :=
  let followed := crew.controller.finish crew.backoff key .zero result
  let desk := match followed.retry with
    | some span => crew.desk.call (.task (.retrying key span))
    | none => crew.desk
  { crew with controller := followed.controller, desk := desk.notifyIf followed.notifies }

/-- Begins the pass for a key. The result is what is left to be installed if that takes time. -/
def beginPass (crew : Crew σ) (key : ObjectKey) : Crew σ × Option Draft :=
  match crew.prepare key (crew.controller.triggerFor key) with
  | (crew, .error failure) => (crew.finish key (.error failure), none)
  | (crew, .ok (.over outcome)) => (crew.finish key (.ok outcome), none)
  | (crew, .ok (.install draft)) =>
    let crew := crew.begin
    if crew.delay = 0 then
      let (crew, result) := crew.conclude key draft
      (crew.finish key result, none)
    else (crew, some draft)

def endPass (crew : Crew σ) (key : ObjectKey) (draft : Draft) : Crew σ :=
  let (crew, result) := crew.conclude key draft
  crew.finish key result

/-- Somebody looks for work. -/
def lookAs (crew : Crew σ) (party : Party CrewTask) : Crew σ × Found ObjectKey :=
  let (desk, queue, found) := look crew.desk crew.controller.queue party
  let controller := { crew.controller with queue := queue }
  match found with
  | .key _ => ({ crew with desk := desk, controller := controller.withDepth }, found)
  | _ => ({ crew with desk := desk, controller := controller }, found)

/-! ### Workers -/

/-- A worker does passes until there is none to do, or one that takes time. -/
def work (number : Nat) : Nat → Crew σ → Crew σ
  | 0, crew => crew
  | turns + 1, crew =>
    match crew.lookAs (.task (.worker number)) with
    | (crew, .nothing) => crew
    | (crew, .closed) => crew.withPost number (.stopped false)
    | (crew, .key key) =>
      match crew.beginPass key with
      | (crew, some draft) =>
        { crew with desk := crew.desk.setAlarm (crew.desk.now + crew.delay) (.task (.worker number)) }.withPost
          number (.installing key draft)
      | (crew, none) =>
        if crew.isLasting number then work number turns crew else crew.withPost number (.stopped true)

def runWorker (crew : Crew σ) (number : Nat) : Crew σ :=
  match crew.post? number with
  | some .looking => crew.work number patience
  | some (.installing key draft) =>
    let crew := crew.endPass key draft
    if crew.isLasting number then (crew.withPost number .looking).work number patience
    else crew.withPost number (.stopped true)
  | _ => crew

def notifyIf (crew : Crew σ) (changed : Controller × Bool) : Crew σ :=
  { crew with controller := changed.1, desk := crew.desk.notifyIf changed.2 }

/-- Adds a key without any notification. -/
def add (crew : Crew σ) (key : ObjectKey) : Crew σ :=
  let (queue, notifies) := crew.controller.queue.add key
  crew.notifyIf ({ crew.controller with queue := queue }, notifies)

def handle (crew : Crew σ) (event : Event) : Crew σ :=
  crew.notifyIf (crew.controller.handle event)

def close (crew : Crew σ) : Crew σ :=
  { crew with
    controller := { crew.controller with queue := crew.controller.queue.close }
    desk := crew.desk.notifyWaiters }

def run (crew : Crew σ) : CrewTask → Crew σ
  | .retrying key span => { crew with desk := crew.desk.setAfter span (.task (.adding key)) }
  | .adding key => crew.add key
  | .worker number => crew.runWorker number

def play : Play (Crew σ) CrewTask where
  desk := desk
  withDesk crew desk := { crew with desk := desk }
  run task crew := crew.run task

/-! ### The script itself -/

def lookAsScript (crew : Crew σ) : Crew σ × Option (Found ObjectKey) :=
  match crew.lookAs .script with
  | (crew, .nothing) => (crew, none)
  | (crew, found) => (crew, some found)

/-- The script does one pass itself, but gives up at a moment. What it gave up stays undone. -/
def process (crew : Crew σ) (moment : Nat) : Crew σ × Option Bool :=
  match play.await crew moment lookAsScript with
  | (crew, some (.key key)) =>
    match crew.beginPass key with
    | (crew, none) => (crew, some true)
    | (crew, some draft) =>
      let ready := crew.desk.now + crew.delay
      if ready ≤ moment then ((play.sleepUntil crew ready).endPass key draft, some true)
      else (play.sleepUntil crew moment, none)
  | (crew, some _) => (crew, some false)
  | (crew, none) => (crew, none)

/-- The script does a pass that no key was queued for. -/
def sync (crew : Crew σ) (key : ObjectKey) (trigger : Option String) : Crew σ × Except Failure Outcome :=
  match crew.prepare key trigger with
  | (crew, .error failure) => (crew, .error failure)
  | (crew, .ok (.over outcome)) => (crew, .ok outcome)
  | (crew, .ok (.install draft)) =>
    let crew := crew.begin
    (play.sleepUntil crew (crew.desk.now + crew.delay)).conclude key draft

end Crew

end VipKeeper.Rehearsal
