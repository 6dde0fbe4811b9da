import Mathlib.Data.List.Nodup
import Mathlib.Logic.Function.Basic
import VipKeeper.Proofs.Queue.Laws

/-! A work queue among the workers that take its keys and the alarms that add keys to it.

In whatever order keys are added, handed out and given back, a key waits at most once and is never with two
workers at a time. -/

namespace VipKeeper

/-- A queue, the keys that are to be added when their alarms go off, and the keys in the hands of each worker. -/
structure SharedQueue (κ ω : Type) where
  queue : WorkQueue κ
  alarms : List κ
  hands : ω → List κ

namespace SharedQueue

/-- What can happen to a queue. A key that is tried again is counted as failed and then added after a span;
other things may happen between the two. -/
inductive Act (κ ω : Type) where
  | add (key : κ)
  | addAfter (key : κ) (span : Span)
  | fail (backoff : Backoff) (key : κ)
  | forget (key : κ)
  | ring (key : κ)
  | take (worker : ω)
  | done (worker : ω) (key : κ)
  | close

variable {κ ω : Type}

def start : SharedQueue κ ω :=
  ⟨.empty, [], fun _ => []⟩

/-- The lists of the queue agree, and what it takes for held is in exactly one hand, once. -/
structure Sound (shared : SharedQueue κ ω) : Prop where
  coherent : shared.queue.Coherent
  held_iff : ∀ key, key ∈ shared.queue.held ↔ ∃ worker, key ∈ shared.hands worker
  alone : ∀ key first second, key ∈ shared.hands first → key ∈ shared.hands second → first = second
  once : ∀ worker, (shared.hands worker).Nodup

theorem Sound.start : (SharedQueue.start : SharedQueue κ ω).Sound :=
  ⟨.empty, by simp [SharedQueue.start, WorkQueue.empty], by simp [SharedQueue.start], by simp [SharedQueue.start]⟩

/-- Neither the alarms nor the other parts of the queue matter. -/
theorem Sound.of_same {shared next : SharedQueue κ ω} (sound : shared.Sound) (coherent : next.queue.Coherent)
    (held : next.queue.held = shared.queue.held) (hands : next.hands = shared.hands) : next.Sound :=
  ⟨coherent, by rw [held, hands]; exact sound.held_iff, by rw [hands]; exact sound.alone,
    by rw [hands]; exact sound.once⟩

/-! ### Adding a key -/

variable [DecidableEq κ]

def add (shared : SharedQueue κ ω) (key : κ) : SharedQueue κ ω :=
  { shared with queue := (shared.queue.add key).1 }

/-- Without any wait the key is added at once, and a closed queue sets no alarm. -/
def addAfter (shared : SharedQueue κ ω) (key : κ) (span : Span) : SharedQueue κ ω :=
  if span.nanoseconds = 0 then shared.add key
  else if shared.queue.closed then shared
  else { shared with alarms := key :: shared.alarms }

theorem Sound.add {shared : SharedQueue κ ω} (sound : shared.Sound) (key : κ) : (shared.add key).Sound :=
  sound.of_same (sound.coherent.add key) (WorkQueue.held_add shared.queue key) rfl

theorem Sound.addAfter {shared : SharedQueue κ ω} (sound : shared.Sound) (key : κ) (span : Span) :
    (shared.addAfter key span).Sound := by
  unfold SharedQueue.addAfter
  split
  · exact sound.add key
  · split
    · exact sound
    · exact sound.of_same sound.coherent rfl rfl

/-! ### Handing out a key -/

/-- Nobody holds the key that is handed out next. -/
theorem Sound.free {shared : SharedQueue κ ω} (sound : shared.Sound) {key : κ} {queue : WorkQueue κ}
    (found : shared.queue.take? = some (key, queue)) (worker : ω) : key ∉ shared.hands worker :=
  fun inside => (sound.coherent.free_of_take found).2 ((sound.held_iff key).2 ⟨worker, inside⟩)

variable [DecidableEq ω]

/-- A worker that finds no key waits, or stops if the queue is closed. -/
def take (shared : SharedQueue κ ω) (worker : ω) : SharedQueue κ ω :=
  match shared.queue.take? with
  | none => shared
  | some (key, queue) =>
    { shared with queue := queue, hands := Function.update shared.hands worker (key :: shared.hands worker) }

theorem Sound.take {shared : SharedQueue κ ω} (sound : shared.Sound) (worker : ω) : (shared.take worker).Sound := by
  unfold SharedQueue.take
  split
  next => exact sound
  next key queue found =>
    have took := WorkQueue.took_of_take? found
    have inHand (other : κ) (someone : ω) :
        other ∈ Function.update shared.hands worker (key :: shared.hands worker) someone ↔
          (someone = worker ∧ other = key) ∨ other ∈ shared.hands someone := by
      by_cases same : someone = worker
      · simp [same]
      · simp [same]
    constructor
    · exact sound.coherent.take found
    · intro other
      rw [took.held, sound.held_iff]
      simp only [inHand]
      grind
    · intro other first second inFirst inSecond
      rw [inHand] at inFirst inSecond
      have free := sound.free found
      have alone := sound.alone other first second
      grind
    · intro someone
      by_cases same : someone = worker
      · simpa [same] using ⟨sound.free found worker, sound.once worker⟩
      · simpa [same] using sound.once someone

/-! ### Taking a key back -/

/-- A worker gives back only a key that it holds. -/
def giveBack (shared : SharedQueue κ ω) (worker : ω) (key : κ) : SharedQueue κ ω :=
  if key ∈ shared.hands worker then
    { shared with
      queue := (shared.queue.done key).1
      hands := Function.update shared.hands worker ((shared.hands worker).erase key) }
  else shared

theorem Sound.giveBack {shared : SharedQueue κ ω} (sound : shared.Sound) (worker : ω) (key : κ) :
    (shared.giveBack worker key).Sound := by
  by_cases holds : key ∈ shared.hands worker
  case neg => simpa only [SharedQueue.giveBack, if_neg holds] using sound
  simp only [SharedQueue.giveBack, if_pos holds]
  have inHand (other : κ) (someone : ω) :
      other ∈ Function.update shared.hands worker ((shared.hands worker).erase key) someone ↔
        other ∈ shared.hands someone ∧ other ≠ key := by
    by_cases same : someone = worker
    · simp [same, (sound.once worker).mem_erase_iff, and_comm]
    · have elsewhere : other ∈ shared.hands someone → other ≠ key := by
        intro inside equal
        exact same (sound.alone key someone worker (equal ▸ inside) holds)
      simpa [same] using elsewhere
  constructor
  · exact sound.coherent.done ((sound.held_iff key).2 ⟨worker, holds⟩)
  · intro other
    rw [WorkQueue.mem_held_done, sound.held_iff]
    simp only [inHand]
    grind
  · intro other first second inFirst inSecond
    exact sound.alone other first second ((inHand other first).1 inFirst).1 ((inHand other second).1 inSecond).1
  · intro someone
    by_cases same : someone = worker
    · simpa [same] using (sound.once worker).erase key
    · simpa [same] using sound.once someone

/-! ### All acts -/

/-- What comes of an act. An alarm that is not set does not go off. -/
def perform (shared : SharedQueue κ ω) : Act κ ω → SharedQueue κ ω
  | .add key => shared.add key
  | .addAfter key span => shared.addAfter key span
  | .fail backoff key => { shared with queue := (shared.queue.fail backoff key).2 }
  | .forget key => { shared with queue := shared.queue.forget key }
  | .ring key => if key ∈ shared.alarms then { shared.add key with alarms := shared.alarms.erase key } else shared
  | .take worker => shared.take worker
  | .done worker key => shared.giveBack worker key
  | .close => { shared with queue := shared.queue.close }

def after (shared : SharedQueue κ ω) (acts : List (Act κ ω)) : SharedQueue κ ω :=
  acts.foldl perform shared

@[simp] theorem after_nil (shared : SharedQueue κ ω) : shared.after [] = shared := rfl

@[simp] theorem after_cons (shared : SharedQueue κ ω) (act : Act κ ω) (acts : List (Act κ ω)) :
    shared.after (act :: acts) = (shared.perform act).after acts := rfl

theorem after_append (shared : SharedQueue κ ω) (first second : List (Act κ ω)) :
    shared.after (first ++ second) = (shared.after first).after second :=
  List.foldl_append

theorem Sound.perform {shared : SharedQueue κ ω} (sound : shared.Sound) (act : Act κ ω) :
    (shared.perform act).Sound := by
  cases act with
  | add key => exact sound.add key
  | addAfter key span => exact sound.addAfter key span
  | fail backoff key => exact sound.of_same (sound.coherent.of_same rfl rfl rfl) rfl rfl
  | forget key => exact sound.of_same (sound.coherent.of_same rfl rfl rfl) rfl rfl
  | ring key =>
    simp only [SharedQueue.perform]
    split
    · exact (sound.add key).of_same (sound.add key).coherent rfl rfl
    · exact sound
  | take worker => exact sound.take worker
  | done worker key => exact sound.giveBack worker key
  | close => exact sound.of_same (sound.coherent.of_same rfl rfl rfl) rfl rfl

theorem Sound.after {shared : SharedQueue κ ω} (sound : shared.Sound) (acts : List (Act κ ω)) :
    (shared.after acts).Sound := by
  induction acts generalizing shared with
  | nil => exact sound
  | cons act rest ih => exact ih (sound.perform act)

/-- What comes of a new queue by some acts. -/
def reached (acts : List (Act κ ω)) : SharedQueue κ ω :=
  start.after acts

theorem Sound.reached (acts : List (Act κ ω)) : (SharedQueue.reached acts).Sound :=
  Sound.start.after acts

/-- A key is never with two workers, nor with one worker twice. It waits exactly if there is work for it and
nobody holds it, and then it waits once; so nobody holds a key that is handed out. -/
theorem workers_share_no_key (acts : List (Act κ ω)) :
    (reached acts).queue.waiting.Nodup ∧
      (∀ key, key ∈ (reached acts).queue.waiting ↔
        key ∈ (reached acts).queue.dirty ∧ key ∉ (reached acts).queue.held) ∧
      (∀ key, key ∈ (reached acts).queue.held ↔ ∃ worker, key ∈ (reached acts).hands worker) ∧
      (∀ key queue, (reached acts).queue.take? = some (key, queue) → ∀ worker, key ∉ (reached acts).hands worker) ∧
      ∀ key first second, key ∈ (reached acts).hands first → key ∈ (reached acts).hands second →
        first = second ∧ ((reached acts).hands first).count key = 1 := by
  have sound := Sound.reached acts
  refine ⟨sound.coherent.once, sound.coherent.waits_iff, sound.held_iff, ?_, ?_⟩
  · intro key queue found worker
    exact sound.free found worker
  · intro key first second inFirst inSecond
    exact ⟨sound.alone key first second inFirst inSecond, List.nodup_iff_count_eq_one.1 (sound.once first) key inFirst⟩

end SharedQueue

end VipKeeper
