import VipKeeper.Metrics.Exposition
import VipKeeper.Rehearsal.Crew

/-! Rehearsals of passes and of the controller, with a store, a membership and a daemon that are kept in memory
and can be made to fail. -/

namespace VipKeeper.Rehearsal

open Sync

/-- The fault that a number of calls still run into. -/
structure Trouble where
  calls : Nat
  fault : Fault

/-- `breaks` reads of the store still break off, and `installs` are the texts installed since the last step. -/
structure Memory where
  store : OrderedMap ObjectKey LoadBalancer
  membership : Membership
  breaks : Nat
  storeTrouble : Trouble
  membershipTrouble : Trouble
  installTrouble : Trouble
  reloadTrouble : Trouble
  reads : Nat
  installs : List String
  reloads : Nat

namespace Trouble

def none : Trouble := ⟨0, .other ""⟩

/-- A call runs into the trouble, or gets its answer. -/
def meet {α : Type} (trouble : Trouble) (answer : α) : Except Mishap α × Trouble :=
  if trouble.calls = 0 then (.ok answer, trouble)
  else (.error (.fault trouble.fault), { trouble with calls := trouble.calls - 1 })

end Trouble

namespace Memory

def start (store : List LoadBalancer) (membership : Membership) : Memory :=
  ⟨OrderedMap.ofList (store.map (fun balancer => (balancer.key, balancer))), membership, 0, .none, .none, .none,
    .none, 0, [], 0⟩

def surroundings : Surroundings (StateM Memory) where
  object key memory :=
    let memory := { memory with reads := memory.reads + 1 }
    if memory.breaks = 0 then
      let (answer, trouble) := memory.storeTrouble.meet (memory.store.get? key)
      (answer, { memory with storeTrouble := trouble })
    else (.error (.panic "the store broke"), { memory with breaks := memory.breaks - 1 })
  membership memory :=
    let (answer, trouble) := memory.membershipTrouble.meet memory.membership
    (answer, { memory with membershipTrouble := trouble })
  install text memory :=
    let (answer, trouble) := memory.installTrouble.meet ()
    let memory := { memory with installTrouble := trouble }
    match answer with
    | .ok () => (answer, { memory with installs := memory.installs ++ [text] })
    | .error _ => (answer, memory)
  reload memory :=
    let (answer, trouble) := memory.reloadTrouble.meet ()
    let memory := { memory with reloadTrouble := trouble }
    match answer with
    | .ok () => (answer, { memory with reloads := memory.reloads + 1 })
    | .error _ => (answer, memory)

end Memory

/-- What can be made to fail. -/
inductive Service where
  | store
  | membership
  | install
  | reload

/-- The loop that hands events to the controller: it takes them until nobody can send any more or it is
cancelled, and is gone when its workers have stopped as well. -/
inductive Loop where
  | absent
  | open_
  | draining
  deriving DecidableEq

/-- A script with the names it has given to workers. -/
structure SyncStage where
  crew : Crew Memory
  names : List (String × Nat)
  loop : Loop
  sending : Bool

inductive SyncStep where
  | put (balancer : LoadBalancer)
  | delete (key : ObjectKey)
  | membership (membership : Membership)
  | fail (service : Service) (trouble : Trouble)
  | breakStore (calls : Nat)
  | delay (millis : Nat)
  | sleep (millis : Nat)
  | sync (key : ObjectKey) (trigger : Option String)
  | artifact (key : ObjectKey)
  | event (event : Event)
  | enqueue (key : ObjectKey)
  | process (millis : Nat)
  | hire (name : String)
  | join (name : String) (millis : Nat)
  | close
  | openLoop (workers : Nat)
  | send (event : Event)
  | closeLoop
  | cancelLoop
  | joinLoop (millis : Nat)

inductive SyncAnswer where
  | nothing
  | flag (holds : Bool)
  | result (result : Except Failure Outcome)
  | artifact (text : Option String)
  | late
  | pending
  | closed
  | stopped

namespace SyncStage

def start (crew : Crew Memory) : SyncStage :=
  ⟨crew, [], .absent, false⟩

def withWorld (stage : SyncStage) (change : Memory → Memory) : SyncStage :=
  { stage with crew := { stage.crew with world := change stage.crew.world } }

def withCrew (stage : SyncStage) (crew : Crew Memory) : SyncStage :=
  { stage with crew := crew }

def withTrouble (service : Service) (trouble : Trouble) (memory : Memory) : Memory :=
  match service with
  | .store => { memory with storeTrouble := trouble }
  | .membership => { memory with membershipTrouble := trouble }
  | .install => { memory with installTrouble := trouble }
  | .reload => { memory with reloadTrouble := trouble }

/-- How a worker with a name stopped, if it has. -/
def stopped? (name : Option Nat) (crew : Crew Memory) : Option Bool :=
  match name.bind crew.post? with
  | some (.stopped found) => some found
  | _ => none

/-- Whether no lasting worker is left. -/
def isDeserted (crew : Crew Memory) : Bool :=
  crew.workers.all (fun worker => !worker.lasting || match worker.post with
    | .stopped _ => true
    | _ => false)

def loopGone? (loop : Loop) (crew : Crew Memory) : Option Unit :=
  if loop = .draining ∧ isDeserted crew then some () else none

/-- The loop takes no more events, and its workers finish what is queued. -/
def drain (stage : SyncStage) : SyncStage :=
  if stage.loop = .open_ then { stage with crew := stage.crew.close, loop := .draining } else stage

/-- What a step does itself, before the others have done what it calls for. -/
def act (stage : SyncStage) : SyncStep → SyncStage × SyncAnswer
  | .put balancer =>
    (stage.withWorld (fun memory => { memory with store := memory.store.insert balancer.key balancer }), .nothing)
  | .delete key => (stage.withWorld (fun memory => { memory with store := memory.store.erase key }), .nothing)
  | .membership membership => (stage.withWorld (fun memory => { memory with membership := membership }), .nothing)
  | .fail service trouble => (stage.withWorld (withTrouble service trouble), .nothing)
  | .breakStore calls => (stage.withWorld (fun memory => { memory with breaks := calls }), .nothing)
  | .delay millis => (stage.withCrew { stage.crew with delay := millis }, .nothing)
  | .sleep millis => (stage.withCrew (Crew.play.sleepUntil stage.crew (stage.crew.desk.now + millis)), .nothing)
  | .sync key trigger =>
    let (crew, result) := stage.crew.sync key trigger
    (stage.withCrew crew, .result result)
  | .artifact key => (stage, .artifact (stage.crew.record.artifacts.get? key))
  | .event event => (stage.withCrew (stage.crew.handle event), .nothing)
  | .enqueue key => (stage.withCrew (stage.crew.add key), .nothing)
  | .process millis =>
    let (crew, result) := stage.crew.process (stage.crew.desk.now + millis)
    (stage.withCrew crew, result.elim .late .flag)
  | .hire name =>
    ({ stage with names := (name, stage.crew.workers.length) :: stage.names, crew := stage.crew.hire false }, .nothing)
  | .join name millis =>
    let (crew, result) := Crew.play.watchFor (stopped? (stage.names.lookup name)) stage.crew millis
    (stage.withCrew crew, result.elim .pending .flag)
  | .close => (stage.withCrew stage.crew.close, .nothing)
  | .openLoop workers =>
    ({ stage with
      crew := (List.range (max workers 1)).foldl (fun crew _ => crew.hire true) stage.crew
      loop := .open_
      sending := true }, .nothing)
  | .send event =>
    if !stage.sending then (stage, .closed)
    else if stage.loop = .open_ then (stage.withCrew (stage.crew.handle event), .flag true)
    else (stage, .flag (loopGone? stage.loop stage.crew).isNone)
  | .closeLoop => ({ stage.drain with sending := false }, .nothing)
  | .cancelLoop => (stage.drain, .nothing)
  | .joinLoop millis =>
    let (crew, result) := Crew.play.watchFor (loopGone? stage.loop) stage.crew millis
    (stage.withCrew crew, result.elim .pending (fun _ => .stopped))

/-- Forgets which texts were installed. -/
def fresh (stage : SyncStage) : SyncStage :=
  stage.withWorld (fun memory => { memory with installs := [] })

def perform (stage : SyncStage) (step : SyncStep) : SyncStage × SyncAnswer :=
  let (stage, answer) := stage.fresh.act step
  (stage.withCrew (Crew.play.settle stage.crew), answer)

end SyncStage

end VipKeeper.Rehearsal
