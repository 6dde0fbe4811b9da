import VipKeeper.Rehearsal.Play

/-! Rehearsals of a work queue: a script of steps, and what each of them shows. -/

namespace VipKeeper.Rehearsal

/-- What goes on beside the script of a queue. -/
inductive QueueTask (κ : Type) where
  | worker (number : Nat)
  | adding (key : κ)
  deriving DecidableEq

/-- What a worker got. -/
inductive Got (κ : Type) where
  | key (key : κ)
  | closed
  deriving DecidableEq

/-- Workers are known by the names that the script gives them; a name means the last worker that was given
it. -/
structure QueueStage (κ : Type) where
  desk : Desk (QueueTask κ)
  queue : WorkQueue κ
  backoff : Backoff
  names : List (String × Nat)
  results : List (Nat × Got κ)

inductive QueueStep (κ : Type) where
  | add (key : κ)
  | addAfter (key : κ) (span : Span)
  | addRateLimited (key : κ)
  | forget (key : κ)
  | done (key : κ)
  | requeues (key : κ)
  | isEmpty
  | isClosed
  | close
  | sleep (millis : Nat)
  | get (millis : Nat)
  | spawn (name : String)
  | poll (name : String)

/-- What a step shows. -/
inductive QueueAnswer (κ : Type) where
  | nothing
  | flag (holds : Bool)
  | count (n : Nat)
  | got (result : Got κ)
  | late
  | pending

namespace QueueStage

variable {κ : Type} [DecidableEq κ]

def start (backoff : Backoff) : QueueStage κ :=
  ⟨.start, .empty, backoff, [], []⟩

/-- Changes the queue, and notifies a worker if a key then waits for one. -/
def change (stage : QueueStage κ) (operation : WorkQueue κ → WorkQueue κ × Bool) : QueueStage κ :=
  let (queue, notifies) := operation stage.queue
  { stage with queue := queue, desk := stage.desk.notifyIf notifies }

def add (stage : QueueStage κ) (key : κ) : QueueStage κ :=
  stage.change (fun queue => queue.add key)

/-- Adds a key after a span; a closed queue sets no alarm. -/
def addAfter (stage : QueueStage κ) (key : κ) (span : Span) : QueueStage κ :=
  if span.nanoseconds = 0 then stage.add key
  else if stage.queue.closed then stage
  else { stage with desk := stage.desk.setAfter span (.task (.adding key)) }

def addRateLimited (stage : QueueStage κ) (key : κ) : QueueStage κ :=
  let (span, queue) := stage.queue.fail stage.backoff key
  { stage with queue := queue }.addAfter key span

def close (stage : QueueStage κ) : QueueStage κ :=
  { stage with queue := stage.queue.close, desk := stage.desk.notifyWaiters }

/-- Somebody looks for work. -/
def lookAs (stage : QueueStage κ) (party : Party (QueueTask κ)) : QueueStage κ × Option (Got κ) :=
  let (desk, queue, found) := look stage.desk stage.queue party
  ({ stage with desk := desk, queue := queue }, match found with
    | .key key => some (.key key)
    | .closed => some .closed
    | .nothing => none)

def run (stage : QueueStage κ) : QueueTask κ → QueueStage κ
  | .adding key => stage.add key
  | .worker number =>
    match stage.lookAs (.task (.worker number)) with
    | (stage, some got) => { stage with results := (number, got) :: stage.results }
    | (stage, none) => stage

def play : Play (QueueStage κ) (QueueTask κ) where
  desk := desk
  withDesk stage desk := { stage with desk := desk }
  run task stage := stage.run task

/-- The script waits for a key until a moment. -/
def get (stage : QueueStage κ) (moment : Nat) : QueueStage κ × Option (Got κ) :=
  play.await stage moment (fun stage => stage.lookAs .script)

/-- What a step does itself, before the others have done what it calls for. -/
def act (stage : QueueStage κ) : QueueStep κ → QueueStage κ × QueueAnswer κ
  | .add key => (stage.add key, .nothing)
  | .addAfter key span => (stage.addAfter key span, .nothing)
  | .addRateLimited key => (stage.addRateLimited key, .nothing)
  | .forget key => ({ stage with queue := stage.queue.forget key }, .nothing)
  | .done key => (stage.change (fun queue => queue.done key), .nothing)
  | .requeues key => (stage, .count (stage.queue.requeues key))
  | .isEmpty => (stage, .flag stage.queue.waiting.isEmpty)
  | .isClosed => (stage, .flag stage.queue.closed)
  | .close => (stage.close, .nothing)
  | .sleep millis => (play.sleepUntil stage (stage.desk.now + millis), .nothing)
  | .get millis =>
    match stage.get (stage.desk.now + millis) with
    | (stage, some got) => (stage, .got got)
    | (stage, none) => (stage, .late)
  | .spawn name =>
    let number := stage.names.length
    ({ stage with names := (name, number) :: stage.names, desk := stage.desk.call (.task (.worker number)) },
      .nothing)
  | .poll name =>
    match (stage.names.lookup name).bind (fun number => stage.results.lookup number) with
    | some got => (stage, .got got)
    | none => (stage, .pending)

def perform (stage : QueueStage κ) (step : QueueStep κ) : QueueStage κ × QueueAnswer κ :=
  let (stage, answer) := stage.act step
  (play.settle stage, answer)

end QueueStage

end VipKeeper.Rehearsal
