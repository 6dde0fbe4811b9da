import VipKeeper.Host.Files
import VipKeeper.Router.Role

/-! The pipe to which the daemon reports changes of role, and its reader. -/

namespace VipKeeper

namespace ReportPipe

/-- Makes the pipe if nothing is at its path. -/
def ensure (files : Files) (path : String) : Except Fault Files :=
  match files.find path with
  | .ok (some .pipe) => .ok files
  | .ok (some _) => .error (.vrrp (path ++ " exists and is not a FIFO"))
  | .ok none => .ok (files.put path .pipe)
  | .error .missing => .error (.vrrp ("mkfifo " ++ path ++ ": ENOENT: No such file or directory"))
  | .error problem => .error problem.fault

end ReportPipe

/-- What a reader of reports does. -/
inductive Watching where
  | reading
  | reopening (moment : Nat)
  | over
  deriving DecidableEq

/-- A reader of reports keeps the beginning of a line until the rest of it comes. -/
structure Watcher where
  tracker : Tracker
  begun : List UInt8
  watching : Watching
  deriving DecidableEq

namespace Watcher

def start (router : String) : Watcher :=
  ⟨.start router, [], .reading⟩

/-- After a line that is no text the pipe is opened again, after so many milliseconds. -/
def reopenDelay : Nat := 1000

/-- The bytes that are read from the pipe at once. -/
def chunkSize : Nat := 8192

/-- Takes what was read at once. What follows a line that is no text is lost. -/
def takeChunk (received : Bool) (now : Nat) (watcher : Watcher) (chunk : List UInt8) : Watcher × List Transition :=
  let lines := Text.lines (watcher.begun ++ chunk)
  match watcher.tracker.follow received (lines.filter Text.isEnded) with
  | (tracker, sent, .exhausted) =>
    (⟨tracker, (lines.filter (fun line => !Text.isEnded line)).flatten, .reading⟩, sent)
  | (tracker, sent, .notText _) => (⟨tracker, [], .reopening (now + reopenDelay)⟩, sent)
  | (tracker, sent, .receiverGone) => (⟨tracker, [], .over⟩, sent)

/-- Reads what is in the pipe, chunk by chunk, and leaves there what it does not come to. -/
def read (received : Bool) (now : Nat) (watcher : Watcher) (bytes : List UInt8) :
    Watcher × List UInt8 × List Transition :=
  if bytes.isEmpty ∨ watcher.watching ≠ .reading then (watcher, bytes, [])
  else
    let (next, sent) := watcher.takeChunk received now (bytes.take chunkSize)
    let (last, left, later) := read received now next (bytes.drop chunkSize)
    (last, left, sent ++ later)
termination_by bytes.length
decreasing_by
  simp only [List.length_drop, chunkSize]
  have : bytes ≠ [] := by
    intro empty
    simp_all
  have := List.length_pos_iff.2 this
  omega

end Watcher

end VipKeeper
