import VipKeeper.Fault
import VipKeeper.Text.Blank
import VipKeeper.Text.Lines

/-! Roles that the daemon reports for a router instance, and the changes of role they amount to. -/

namespace VipKeeper

inductive Role where
  | init
  | backup
  | master
  deriving DecidableEq

namespace Role

def name : Role → String
  | init => "INIT"
  | backup => "BACKUP"
  | master => "MASTER"

end Role

/-- A change of role that matters to others. -/
inductive Transition where
  | becameMaster
  | becameBackup
  deriving DecidableEq

namespace Transition

def name : Transition → String
  | becameMaster => "MASTER"
  | becameBackup => "BACKUP"

end Transition

/-- A line of the daemon about one instance. -/
structure Report where
  router : String
  role : Role
  deriving DecidableEq

namespace Report

/-- A failed instance owns no address, so it counts as a backup; a stopped one is back at the start. -/
def role? (word : List Char) : Option Role :=
  if word = "MASTER".toList then some .master
  else if word = "BACKUP".toList ∨ word = "FAULT".toList then some .backup
  else if word = "STOP".toList then some .init
  else none

/-- Reads a line `INSTANCE "name" STATE ...`; quotes around the name are dropped and what follows the state is
of no interest. -/
def ofLine? (line : List Char) : Option Report :=
  match Text.words line with
  | keyword :: name :: state :: _ =>
    if keyword = "INSTANCE".toList then
      (role? state).map (fun role => ⟨String.ofList (Text.trimBy (· == '"') name), role⟩)
    else none
  | _ => none

end Report

/-- The last role that was reported for one instance. -/
structure Tracker where
  router : String
  role : Role
  deriving DecidableEq

namespace Tracker

def start (router : String) : Tracker :=
  ⟨router, .init⟩

/-- The transition that a reported role amounts to: none if the role is the old one or the start. -/
def observe (tracker : Tracker) (reported : Role) : Tracker × Option Transition :=
  if tracker.role = reported then (tracker, none)
  else ({ tracker with role := reported }, match reported with
    | .init => none
    | .backup => some .becameBackup
    | .master => some .becameMaster)

/-- Takes note of a line, unless it is about another instance or no report at all. -/
def observeLine (tracker : Tracker) (line : String) : Tracker × Option Transition :=
  match Report.ofLine? line.toList with
  | none => (tracker, none)
  | some report => if report.router = tracker.router then tracker.observe report.role else (tracker, none)

/-- How the reading of a stream ends. -/
inductive Ending where
  | exhausted
  | notText (problem : Text.Malformed)
  | receiverGone
  deriving DecidableEq

/-- A reader without a receiver has nothing left to do; only a line that is no text is a fault. -/
def Ending.outcome : Ending → Except Fault Unit
  | exhausted | receiverGone => .ok ()
  | notText problem => .error (.io problem.message)

/-- Reads lines in order and hands on the transitions. A line that is no text ends the reading before it is
looked at; so does a transition that nobody receives, but the tracker has then taken note of it. -/
def follow (received : Bool) : Tracker → List (List UInt8) → Tracker × List Transition × Ending
  | tracker, [] => (tracker, [], .exhausted)
  | tracker, line :: rest =>
    match Text.ofLine line with
    | .error problem => (tracker, [], .notText problem)
    | .ok text =>
      match tracker.observeLine text with
      | (next, none) => follow received next rest
      | (next, some transition) =>
        if received then
          let (last, sent, ending) := follow received next rest
          (last, transition :: sent, ending)
        else (next, [], .receiverGone)

/-- Reads a whole stream. -/
def followStream (received : Bool) (tracker : Tracker) (stream : List UInt8) :
    Tracker × List Transition × Ending :=
  tracker.follow received (Text.lines stream)

end Tracker

end VipKeeper
