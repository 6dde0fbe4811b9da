import VipKeeper.Queue.Backoff

/-! A queue of keys that workers take, one worker a key.

A key that is added while a worker holds it is only noted, and waits again when the worker is done with it. So
a key waits at most once, and no two workers hold it at the same time. -/

namespace VipKeeper

/-- `dirty` are the keys for which there is work that no worker has begun, and `held` those that workers have.
The failures of a key are counted until it is forgotten. -/
structure WorkQueue (κ : Type) where
  waiting : List κ
  dirty : List κ
  held : List κ
  failures : List (κ × Nat)
  closed : Bool
  deriving DecidableEq

namespace WorkQueue

variable {κ : Type} [DecidableEq κ]

def empty : WorkQueue κ := ⟨[], [], [], [], false⟩

instance : Inhabited (WorkQueue κ) := ⟨empty⟩

def without (key : κ) (keys : List κ) : List κ :=
  keys.filter (fun other => !decide (other = key))

/-- Notes work for a key. The second result tells whether the key now waits for a worker. -/
def add (queue : WorkQueue κ) (key : κ) : WorkQueue κ × Bool :=
  if queue.closed || decide (key ∈ queue.dirty) then (queue, false)
  else if key ∈ queue.held then ({ queue with dirty := key :: queue.dirty }, false)
  else ({ queue with dirty := key :: queue.dirty, waiting := queue.waiting ++ [key] }, true)

/-- Hands out the key that has waited longest. -/
def take? (queue : WorkQueue κ) : Option (κ × WorkQueue κ) :=
  match queue.waiting with
  | [] => none
  | key :: rest =>
    some (key, { queue with
      waiting := rest
      dirty := without key queue.dirty
      held := key :: without key queue.held })

/-- Takes a key back from its worker. The second result tells whether it waits for a worker again. -/
def done (queue : WorkQueue κ) (key : κ) : WorkQueue κ × Bool :=
  let queue := { queue with held := without key queue.held }
  if key ∈ queue.dirty then ({ queue with waiting := queue.waiting ++ [key] }, true) else (queue, false)

/-- The failures of a key since it was last forgotten. -/
def requeues (queue : WorkQueue κ) (key : κ) : Nat :=
  (queue.failures.lookup key).getD 0

def forget (queue : WorkQueue κ) (key : κ) : WorkQueue κ :=
  { queue with failures := queue.failures.filter (fun entry => !decide (entry.1 = key)) }

/-- The count of failures goes no further. -/
def mostFailures : Nat := UInt32.size - 1

/-- Counts a failure of a key and tells how long to wait before the next attempt. -/
def fail (queue : WorkQueue κ) (backoff : Backoff) (key : κ) : Span × WorkQueue κ :=
  let earlier := queue.requeues key
  (backoff.delay earlier,
    { queue.forget key with
      failures := (key, min (earlier + 1) mostFailures) :: (queue.forget key).failures })

/-- A closed queue takes no more keys, but hands out those that wait. -/
def close (queue : WorkQueue κ) : WorkQueue κ :=
  { queue with closed := true }

end WorkQueue

end VipKeeper
