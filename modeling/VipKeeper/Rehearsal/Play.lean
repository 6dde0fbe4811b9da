import VipKeeper.Rehearsal.Desk

/-! How a rehearsal goes on: tasks run until all of them wait, and only then does time pass. -/

namespace VipKeeper.Rehearsal

/-- The turns that a rehearsal takes at most to become quiet, or to reach a moment. -/
def patience : Nat := 100000

/-- A kind of stage: where its desk is, and how one of its tasks goes on when it is called. -/
structure Play (σ τ : Type) where
  desk : σ → Desk τ
  withDesk : σ → Desk τ → σ
  run : τ → σ → σ

namespace Play

variable {σ τ : Type} (play : Play σ τ)

/-- Lets everybody who is called do what is to be done, in a number of turns at most. -/
def settleIn : Nat → σ → σ
  | 0, stage => stage
  | turns + 1, stage =>
    match (play.desk stage).next? with
    | none => stage
    | some (task, desk) => settleIn turns (play.run task (play.withDesk stage desk))

def settle (stage : σ) : σ :=
  play.settleIn patience stage

def moveTo (stage : σ) (moment : Nat) : σ :=
  play.withDesk stage ((play.desk stage).moveTo moment)

/-- The next moment before a given one at which an alarm goes off. -/
def alarmBefore? (stage : σ) (moment : Nat) : Option Nat :=
  (play.desk stage).nextAlarm?.filter (fun alarm => decide (alarm < moment))

def sleepIn (moment : Nat) : Nat → σ → σ
  | 0, stage => stage
  | turns + 1, stage =>
    let stage := play.settle stage
    match play.alarmBefore? stage moment with
    | some alarm => sleepIn moment turns (play.moveTo stage alarm)
    | none => play.moveTo stage moment

/-- The script sleeps until a moment, and wakes up before whoever else is called at that moment. -/
def sleepUntil (stage : σ) (moment : Nat) : σ :=
  play.sleepIn moment patience stage

variable [DecidableEq τ] {α : Type}

def awaitIn (look : σ → σ × Option α) (moment : Nat) : Nat → σ → σ × Option α
  | 0, stage => (stage, none)
  | turns + 1, stage =>
    let stage := play.settle stage
    let desk := play.desk stage
    if desk.scriptCalled then
      match look (play.withDesk stage { desk with scriptCalled := false }) with
      | (stage, none) => awaitIn look moment turns stage
      | found => found
    else
      match play.alarmBefore? stage moment with
      | some alarm => awaitIn look moment turns (play.moveTo stage alarm)
      | none => (play.withDesk stage (desk.moveTo moment).scriptLeaves, none)

/-- The script looks for something that it is called for when it is worth another look. It gives up at a
moment. -/
def await (stage : σ) (moment : Nat) (look : σ → σ × Option α) : σ × Option α :=
  match look stage with
  | (stage, none) => play.awaitIn look moment patience stage
  | found => found

/-- The script looks every millisecond for something that nobody calls it for. -/
def watchFor (look : σ → Option α) (stage : σ) : Nat → σ × Option α
  | 0 => (stage, look stage)
  | millis + 1 =>
    match look stage with
    | some found => (stage, some found)
    | none => watchFor look (play.sleepUntil stage ((play.desk stage).now + 1)) millis

end Play

end VipKeeper.Rehearsal
