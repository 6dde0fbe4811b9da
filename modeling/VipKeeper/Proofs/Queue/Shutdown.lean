import Mathlib.Algebra.BigOperators.Group.Finset.Basic
import Mathlib.Data.Fintype.Basic
import Mathlib.Data.Prod.Lex
import Mathlib.Order.WellFounded
import VipKeeper.Proofs.Queue.Closing
import VipKeeper.Proofs.Queue.NotifiedQueue

/-! How a queue is shut down: the keys that are left are handed out, and then the workers stop. -/

namespace VipKeeper

namespace NotifiedQueue

variable {κ ω : Type} {state : NotifiedQueue κ ω}

/-! ### Workers that go on -/

/-- Nobody gives back a key that he does not hold. -/
def Act.Honest : Act κ ω → Prop
  | .stray _ => False
  | _ => True

/-- A worker gives back its keys before it comes for another, waits for as long as it takes, and does not come back
once it was told that there will be no more. Everybody else does as he likes. -/
def Diligent (state : NotifiedQueue κ ω) : Act κ ω → Prop
  | .drop _ => False
  | .enter worker => state.shared.hands worker = [] ∧ state.place worker ≠ .gone
  | _ => True

/-- The acts by which a worker gets on, and the notification of a closing that somebody still waits for. -/
def Moves (state : NotifiedQueue κ ω) : Act κ ω → Prop
  | .enter worker => state.place worker = .away ∧ state.shared.hands worker = []
  | .queue (.take worker) => state.place worker = .looking
  | .wake worker => state.place worker = .waiting ∧ worker ∉ state.notify.waiters
  | .queue (.done worker key) => key ∈ state.shared.hands worker
  | .notifyWaiters => state.broadcasts ≠ 0 ∧ state.notify.waiters ≠ []
  | _ => False

/-- The state of a closed queue with workers that are diligent. One that holds a key is not about to get another. -/
structure Draining (state : NotifiedQueue κ ω) : Prop where
  orderly : ∃ lost, state.Orderly lost
  traced : state.shared.Traced
  closed : state.shared.queue.closed = true
  alternating : ∀ worker, state.shared.hands worker ≠ [] → state.place worker = .away
  rested : (∀ worker, state.place worker = .gone) → state.shared.queue.waiting = [] ∧ state.shared.queue.dirty = []

structure Drained (state : NotifiedQueue κ ω) : Prop where
  gone : ∀ worker, state.place worker = .gone
  waiting : state.shared.queue.waiting = []
  dirty : state.shared.queue.dirty = []
  held : state.shared.queue.held = []

/-- As long as the workers are not done, one of them can get on or is still to be notified of the closing. -/
theorem Draining.drained (draining : state.Draining) (still : ∀ act, ¬ state.Moves act) : state.Drained := by
  have empty (worker : ω) : state.shared.hands worker = [] := by
    apply List.eq_nil_iff_forall_not_mem.2
    intro key holds
    exact still (.queue (.done worker key)) holds
  have gone (worker : ω) : state.place worker = .gone := by
    cases place : state.place worker with
    | gone => rfl
    | away => exact absurd ⟨place, empty worker⟩ (still (.enter worker))
    | looking => exact absurd place (still (.queue (.take worker)))
    | waiting =>
      -- Whoever waits in line has not been notified of the closing, which is then still to be done.
      have line : worker ∈ state.notify.waiters := by
        by_contra unlined
        exact still (.wake worker) ⟨place, unlined⟩
      have told : state.broadcasts = 0 := by
        by_contra due
        exact still .notifyWaiters ⟨due, List.ne_nil_of_mem line⟩
      obtain ⟨lost, orderly⟩ := draining.orderly
      exact absurd ⟨place, line⟩ (orderly.released draining.closed told worker)
  have held : state.shared.queue.held = [] := by
    apply List.eq_nil_iff_forall_not_mem.2
    intro key inside
    obtain ⟨worker, holds⟩ := draining.traced.handed key inside
    rw [empty worker] at holds
    cases holds
  obtain ⟨waiting, dirty⟩ := draining.rested gone
  exact ⟨gone, waiting, dirty, held⟩

/-- The steps to the end that are left to a worker without keys. -/
def steps : Place → Nat
  | .away | .waiting => 3
  | .looking => 1
  | .gone => 0

def burden (state : NotifiedQueue κ ω) (worker : ω) : Nat :=
  (state.shared.hands worker).length + steps (state.place worker)

section

variable [DecidableEq κ] [Fintype ω]

/-- A key costs its worker four steps: it comes to look for the next one, and gives this one back. -/
def effort (state : NotifiedQueue κ ω) : Nat :=
  4 * state.shared.queue.ahead + state.notify.waiters.length + ∑ worker, state.burden worker

/-- What is left to be done. A key with work may bring others behind it in front, but only once. -/
def work (state : NotifiedQueue κ ω) : Nat ×ₗ Nat :=
  toLex (state.shared.queue.dirty.length, state.effort)

theorem work_lt {next : NotifiedQueue κ ω} (dirty : next.shared.queue.dirty = state.shared.queue.dirty)
    (less : next.effort < state.effort) : next.work < state.work :=
  Prod.Lex.toLex_lt_toLex.2 (.inr ⟨congrArg List.length dirty, less⟩)

/-- What one worker has less to do, all have less to do together. -/
theorem effort_lt [DecidableEq ω] {next : NotifiedQueue κ ω} (worker : ω)
    (others : ∀ other, other ≠ worker → next.burden other = state.burden other)
    (less : 4 * next.shared.queue.ahead + next.notify.waiters.length + next.burden worker <
      4 * state.shared.queue.ahead + state.notify.waiters.length + state.burden worker) :
    next.effort < state.effort := by
  have same : ∑ other ∈ Finset.univ.erase worker, next.burden other =
      ∑ other ∈ Finset.univ.erase worker, state.burden other :=
    Finset.sum_congr rfl (fun other inside => others other (Finset.ne_of_mem_erase inside))
  rw [effort, effort, ← Finset.add_sum_erase _ _ (Finset.mem_univ worker),
    ← Finset.add_sum_erase _ state.burden (Finset.mem_univ worker), same]
  omega

end

/-! ### The queue behind the calls -/

variable [DecidableEq κ] [DecidableEq ω]

/-- What an act does to the queue. A worker that is not about to look takes nothing. -/
def queueAct? (state : NotifiedQueue κ ω) : Act κ ω → Option (SharedQueue.Act κ ω)
  | .queue (.take worker) => if state.place worker = .looking then some (.take worker) else none
  | .queue act => some act
  | _ => none

def handedOut? (state : NotifiedQueue κ ω) (act : Act κ ω) : Option κ :=
  (state.queueAct? act).bind state.shared.handedOut?

/-- The keys that workers get, first to last. -/
def handedOut (state : NotifiedQueue κ ω) : List (Act κ ω) → List κ
  | [] => []
  | act :: rest => (state.handedOut? act).toList ++ (state.perform act).handedOut rest

/-- An act is one of the queue, or none that matters to it, unless a key is given back that nobody holds. -/
theorem dealt (state : NotifiedQueue κ ω) (act : Act κ ω) :
    (state.queueAct? act = none ∧ (state.perform act).shared = state.shared) ∨
      (∃ done, state.queueAct? act = some done ∧ (state.perform act).shared = state.shared.perform done) ∨
      ∃ key, act = .stray key := by
  cases act with
  | queue act =>
    cases act with
    | take worker =>
      simp only [perform, queueAct?]
      by_cases looking : state.place worker = .looking
      · refine .inr (.inl ⟨.take worker, if_pos looking, ?_⟩)
        rcases state.found looking with ⟨_, _, _, shared, _⟩ | ⟨none, shared, _⟩
        · exact shared
        · simpa [SharedQueue.perform, SharedQueue.take, none] using shared
      · exact .inl ⟨if_neg looking, by simp [look, looking]⟩
    | _ => exact .inr (.inl ⟨_, rfl, rfl⟩)
  | stray key => exact .inr (.inr ⟨key, rfl⟩)
  | enter worker =>
    refine .inl ⟨rfl, ?_⟩
    simp only [perform, enter]
    split <;> rfl
  | wake worker =>
    refine .inl ⟨rfl, ?_⟩
    simp only [perform, wake]
    split <;> rfl
  | drop worker =>
    refine .inl ⟨rfl, ?_⟩
    simp only [perform, drop]
    split
    · exact shared_dropNotified _ worker
    · rfl
  | notifyOne => exact .inl ⟨rfl, shared_notifyOne state⟩
  | notifyWaiters =>
    refine .inl ⟨rfl, ?_⟩
    simp only [perform, notifyWaiters]
    split <;> rfl

theorem sound_perform (sound : state.shared.Sound) {act : Act κ ω} (honest : act.Honest) :
    (state.perform act).shared.Sound := by
  rcases state.dealt act with ⟨-, shared⟩ | ⟨done, -, shared⟩ | ⟨key, rfl⟩
  · exact shared ▸ sound
  · exact shared ▸ sound.perform done
  · exact absurd honest id

theorem sound_after (sound : state.shared.Sound) {acts : List (Act κ ω)} (honest : ∀ act ∈ acts, act.Honest) :
    (state.after acts).shared.Sound := by
  induction acts generalizing state with
  | nil => exact sound
  | cons act rest ih =>
    obtain ⟨first, rest⟩ := List.forall_mem_cons.1 honest
    exact ih (sound_perform sound first) rest

theorem traced_perform (traced : state.shared.Traced) (act : Act κ ω) : (state.perform act).shared.Traced := by
  rcases state.dealt act with ⟨-, shared⟩ | ⟨done, -, shared⟩ | ⟨key, rfl⟩
  · exact shared ▸ traced
  · exact shared ▸ traced.perform done
  · refine ⟨traced.placed.done key, fun other held => ?_⟩
    exact traced.handed other ((WorkQueue.mem_held_done state.shared.queue key other).1 held).1

theorem traced_after (traced : state.shared.Traced) (acts : List (Act κ ω)) : (state.after acts).shared.Traced := by
  induction acts generalizing state with
  | nil => exact traced
  | cons act rest ih => exact ih (traced_perform traced act)

/-! ### Acts on a closed queue -/

theorem stays_closed (closed : state.shared.queue.closed = true) (act : Act κ ω) :
    (state.perform act).shared.queue.closed = true := by
  rcases state.dealt act with ⟨-, shared⟩ | ⟨done, -, shared⟩ | ⟨key, rfl⟩
  · exact shared ▸ closed
  · exact shared ▸ SharedQueue.stays_closed closed done
  · exact (WorkQueue.closed_done state.shared.queue key).trans closed

/-- Nothing asks for work in a closed queue, not even a key that is given back twice. -/
theorem mem_dirty_perform (closed : state.shared.queue.closed = true) (act : Act κ ω) (key : κ) :
    key ∈ (state.perform act).shared.queue.dirty ↔
      key ∈ state.shared.queue.dirty ∧ state.handedOut? act ≠ some key := by
  rw [handedOut?]
  rcases state.dealt act with ⟨nothing, shared⟩ | ⟨done, some, shared⟩ | ⟨other, rfl⟩
  · simp [nothing, shared]
  · rw [some, shared]
    exact SharedQueue.mem_dirty_perform_of_closed closed done key
  · simp [perform, queueAct?]

theorem served_or_dirty (closed : state.shared.queue.closed = true) (acts : List (Act κ ω)) {key : κ}
    (dirty : key ∈ state.shared.queue.dirty) :
    key ∈ state.handedOut acts ∨ key ∈ (state.after acts).shared.queue.dirty := by
  induction acts generalizing state with
  | nil => exact .inr dirty
  | cons act rest ih =>
    rw [handedOut, List.mem_append]
    by_cases got : state.handedOut? act = some key
    · exact .inl (.inl (by simp [got]))
    · have kept := (mem_dirty_perform closed act key).2 ⟨dirty, got⟩
      exact (ih (stays_closed closed act) kept).imp_left .inr

theorem handedOut_of_closed (sound : state.shared.Sound) (closed : state.shared.queue.closed = true)
    {acts : List (Act κ ω)} (honest : ∀ act ∈ acts, act.Honest) :
    (state.handedOut acts).Nodup ∧ ∀ key ∈ state.handedOut acts, key ∈ state.shared.queue.dirty := by
  induction acts generalizing state with
  | nil => simp [handedOut]
  | cons act rest ih =>
    obtain ⟨first, honest⟩ := List.forall_mem_cons.1 honest
    obtain ⟨once, owed⟩ := ih (sound_perform sound first) (stays_closed closed act) honest
    have before (key : κ) (later : key ∈ (state.perform act).handedOut rest) :
        key ∈ state.shared.queue.dirty ∧ state.handedOut? act ≠ some key :=
      (mem_dirty_perform closed act key).1 (owed key later)
    rw [handedOut]
    cases got : state.handedOut? act with
    | none => exact ⟨once, fun key later => (before key later).1⟩
    | some first =>
      obtain ⟨done, -, took⟩ := Option.bind_eq_some_iff.1 got
      refine ⟨List.nodup_cons.2 ⟨fun again => (before first again).2 got, once⟩, fun key inside => ?_⟩
      rcases List.mem_cons.1 inside with rfl | later
      · exact (sound.handedOut took).1
      · exact (before key later).1

/-- All that an act of diligent workers can come to when the queue is closed. -/
inductive Stepped (state : NotifiedQueue κ ω) (moved : Prop) (next : NotifiedQueue κ ω) : Prop where
  | beside (waiting : next.shared.queue.waiting = state.shared.queue.waiting)
      (dirty : next.shared.queue.dirty = state.shared.queue.dirty) (hands : next.shared.hands = state.shared.hands)
      (place : next.place = state.place) (line : next.notify.waiters.length ≤ state.notify.waiters.length)
      (less : moved → next.notify.waiters.length < state.notify.waiters.length)
  | came (worker : ω) (before : state.place worker = .away ∨ state.place worker = .waiting)
      (free : state.place worker = .away → state.shared.hands worker = []) (shared : next.shared = state.shared)
      (place : next.place = Function.update state.place worker .looking)
      (line : next.notify.waiters.length ≤ state.notify.waiters.length + 1)
  | took (worker : ω) (key : κ) (queue : WorkQueue κ) (looking : state.place worker = .looking)
      (found : state.shared.queue.take? = some (key, queue)) (shared : next.shared = state.shared.take worker)
      (place : next.place = Function.update state.place worker .away)
      (line : next.notify.waiters.length ≤ state.notify.waiters.length)
  | stopped (worker : ω) (looking : state.place worker = .looking) (none : state.shared.queue.take? = none)
      (shared : next.shared = state.shared) (place : next.place = Function.update state.place worker .gone)
      (line : next.notify.waiters.length ≤ state.notify.waiters.length)
  | gaveBack (worker : ω) (key : κ) (holds : key ∈ state.shared.hands worker)
      (shared : next.shared = state.shared.giveBack worker key) (place : next.place = state.place)
      (line : next.notify.waiters = state.notify.waiters)
  | strayed (key : κ) (idle : ¬ moved)
      (shared : next.shared = { state.shared with queue := (state.shared.queue.done key).1 })
      (place : next.place = state.place) (line : next.notify.waiters = state.notify.waiters)

theorem stepped (state : NotifiedQueue κ ω) (closed : state.shared.queue.closed = true) {act : Act κ ω}
    (diligent : state.Diligent act) : Stepped state (state.Moves act) (state.perform act) := by
  cases act with
  | queue act =>
    -- Keys are taken and given back by workers, and nothing else changes a closed queue.
    by_cases takes : ∃ worker, act = .take worker
    · obtain ⟨worker, rfl⟩ := takes
      by_cases looking : state.place worker = .looking
      · have line := (state.waiters_look worker).length_le
        rcases state.found looking with ⟨key, queue, found, shared, place⟩ | ⟨none, shared, place⟩
        · exact .took worker key queue looking found shared place line
        · rw [closed, if_pos rfl] at place
          exact .stopped worker looking none shared place line
      · simp only [perform, look, if_neg looking]
        exact .beside rfl rfl rfl rfl (Nat.le_refl _) (fun moved => absurd moved looking)
    by_cases gives : ∃ worker key, act = .done worker key
    · obtain ⟨worker, key, rfl⟩ := gives
      by_cases holds : key ∈ state.shared.hands worker
      · exact .gaveBack worker key holds rfl rfl rfl
      · have same : state.shared.giveBack worker key = state.shared := if_neg holds
        refine .beside ?_ ?_ ?_ rfl (Nat.le_refl _) (fun moved => absurd moved holds) <;>
          simp [perform, SharedQueue.perform, same]
    have idle : ¬ state.Moves (.queue act) := by
      cases act <;> simp_all [Moves]
    obtain ⟨waiting, dirty, hands⟩ :=
      SharedQueue.perform_of_closed closed (not_exists.1 takes) (fun worker key same => gives ⟨worker, key, same⟩)
    have rest : (state.perform (.queue act)).shared = state.shared.perform act ∧
        (state.perform (.queue act)).place = state.place ∧ (state.perform (.queue act)).notify = state.notify := by
      cases act with
      | take worker => exact absurd ⟨worker, rfl⟩ takes
      | _ => exact ⟨rfl, rfl, rfl⟩
    obtain ⟨shared, place, notify⟩ := rest
    exact .beside (shared ▸ waiting) (shared ▸ dirty) (shared ▸ hands) place (notify ▸ Nat.le_refl _)
      (fun moved => absurd moved idle)
  | stray key => exact .strayed key id rfl rfl rfl
  | drop worker => exact absurd diligent id
  | enter worker =>
    obtain ⟨free, back⟩ := diligent
    simp only [perform, enter]
    split
    next outside =>
      exact .came worker (.inl (outside.resolve_right back)) (fun _ => free) rfl rfl
        (state.length_waiters_enable worker)
    next inside =>
      exact .beside rfl rfl rfl rfl (Nat.le_refl _) (fun moved => absurd (.inl moved.1) inside)
  | wake worker =>
    simp only [perform, wake]
    split
    next notified =>
      refine .came worker (.inr notified.1) ?_ rfl rfl (state.length_waiters_enable worker)
      intro away
      exact absurd (away.symm.trans notified.1) (by decide)
    next uncalled => exact .beside rfl rfl rfl rfl (Nat.le_refl _) (fun moved => absurd moved uncalled)
  | notifyOne =>
    refine .beside ?_ ?_ ?_ (place_notifyOne state) (waiters_notifyOne state).length_le False.elim <;>
      simp [perform]
  | notifyWaiters =>
    simp only [perform, notifyWaiters]
    split
    next none => exact .beside rfl rfl rfl rfl (Nat.le_refl _) (fun moved => absurd none moved.1)
    next =>
      exact .beside rfl rfl rfl rfl (Nat.zero_le _) (fun moved => List.length_pos_of_ne_nil moved.2)

theorem Stepped.alternating {next : NotifiedQueue κ ω} {moved : Prop} (stepped : Stepped state moved next)
    (alternating : ∀ worker, state.shared.hands worker ≠ [] → state.place worker = .away) (other : ω)
    (busy : next.shared.hands other ≠ []) : next.place other = .away := by
  have apart {worker : ω} {place : Place} (idle : state.shared.hands worker = []) (same : next.shared = state.shared)
      (moves : next.place = Function.update state.place worker place) : next.place other = .away := by
    rw [same] at busy
    have other : other ≠ worker := by
      rintro rfl
      exact busy idle
    rw [moves, Function.update_of_ne other]
    exact alternating _ busy
  have idle {worker : ω} (there : state.place worker ≠ .away) : state.shared.hands worker = [] := by
    by_contra busy
    exact there (alternating worker busy)
  cases stepped with
  | beside waiting dirty hands place line less =>
    rw [place]
    exact alternating other (hands ▸ busy)
  | came worker before free shared place line =>
    rcases before with away | waits
    · exact apart (free away) shared place
    · exact apart (idle (by simp [waits])) shared place
  | took worker key queue looking found shared place line =>
    rw [place]
    by_cases same : other = worker
    · exact same ▸ Function.update_self ..
    · rw [Function.update_of_ne same]
      rw [shared, SharedQueue.take, found] at busy
      exact alternating other (by simpa [same] using busy)
  | stopped worker looking none shared place line => exact apart (idle (by simp [looking])) shared place
  | gaveBack worker key holds shared place line =>
    rw [place]
    have held : state.shared.hands other ≠ [] := by
      by_cases same : other = worker
      · exact same ▸ List.ne_nil_of_mem holds
      · simpa [shared, SharedQueue.giveBack, holds, same] using busy
    exact alternating other held
  | strayed key idle shared place line =>
    rw [place]
    exact alternating other (by simpa only [shared] using busy)

/-- The last worker does not stop while there is work, and only a worker that has not stopped makes a key wait. -/
theorem Stepped.rested {next : NotifiedQueue κ ω} {moved : Prop} (stepped : Stepped state moved next)
    (draining : state.Draining) (gone : ∀ worker, next.place worker = .gone) :
    next.shared.queue.waiting = [] ∧ next.shared.queue.dirty = [] := by
  cases stepped with
  | beside waiting dirty hands place line less =>
    rw [waiting, dirty]
    exact draining.rested (place ▸ gone)
  | came worker before free shared place line => exact absurd (gone worker) (by simp [place])
  | took worker key queue looking found shared place line => exact absurd (gone worker) (by simp [place])
  | stopped worker looking none shared place line =>
    have empty := WorkQueue.waiting_of_take? none
    rw [shared]
    refine ⟨empty, List.eq_nil_iff_forall_not_mem.2 (fun key dirty => ?_)⟩
    -- Work that does not wait is in the hands of another worker, and that one has not stopped.
    have held := (draining.traced.placed key dirty).resolve_left (by simp [empty])
    obtain ⟨other, holds⟩ := draining.traced.handed key held
    have away := draining.alternating other (List.ne_nil_of_mem holds)
    have apart : other ≠ worker := by
      rintro rfl
      exact absurd (away.symm.trans looking) (by decide)
    have stopped := gone other
    rw [place, Function.update_of_ne apart, away] at stopped
    cases stopped
  | gaveBack worker key holds shared place line =>
    have away := draining.alternating worker (List.ne_nil_of_mem holds)
    exact absurd (gone worker) (by simp [place, away])
  | strayed key idle shared place line =>
    obtain ⟨waiting, dirty⟩ := draining.rested (place ▸ gone)
    simp [shared, WorkQueue.waiting_done, WorkQueue.done_notifies, waiting, dirty]

theorem Draining.perform (draining : state.Draining) {act : Act κ ω} (diligent : state.Diligent act) :
    (state.perform act).Draining := by
  have steps := stepped state draining.closed diligent
  obtain ⟨lost, orderly⟩ := draining.orderly
  refine ⟨⟨_, orderly.perform act⟩, traced_perform draining.traced act, stays_closed draining.closed act, ?_, ?_⟩
  · exact steps.alternating draining.alternating
  · exact steps.rested draining

/-! ### Runs -/

/-- What a run without end has come to after a number of acts. -/
def along (state : NotifiedQueue κ ω) (run : Nat → Act κ ω) (n : Nat) : NotifiedQueue κ ω :=
  state.after ((List.range n).map run)

theorem along_succ (state : NotifiedQueue κ ω) (run : Nat → Act κ ω) (n : Nat) :
    state.along run (n + 1) = (state.along run n).perform (run n) := by
  simp [along, after, List.range_succ]

def shutDown (state : NotifiedQueue κ ω) : NotifiedQueue κ ω :=
  state.perform (.queue .close)

theorem closed_shutDown (state : NotifiedQueue κ ω) (acts : List (Act κ ω)) :
    (state.shutDown.after acts).shared.queue.closed = true := by
  induction acts using List.reverseRecOn with
  | nil => rfl
  | append_singleton acts act ih =>
    rw [after_append]
    exact stays_closed ih act

/-- As long as somebody can get on, somebody does at some time. -/
def Lively (state : NotifiedQueue κ ω) (run : Nat → Act κ ω) : Prop :=
  ∀ n act, (state.along run n).Moves act → ∃ m, n ≤ m ∧ (state.along run m).Moves (run m)

theorem Draining.along (draining : state.Draining) {run : Nat → Act κ ω}
    (diligent : ∀ n, (state.along run n).Diligent (run n)) (n : Nat) : (state.along run n).Draining := by
  induction n with
  | zero => exact draining
  | succ n ih =>
    rw [along_succ]
    exact ih.perform (diligent n)

/-! ### The end -/

section

variable [Fintype ω]

/-- Work gets less when a worker takes a key: there is work for it no more, or one key less in front of the others. -/
theorem work_took {next : NotifiedQueue κ ω} {worker : ω} {key : κ} {queue : WorkQueue κ}
    (looking : state.place worker = .looking) (found : state.shared.queue.take? = some (key, queue))
    (shared : next.shared = state.shared.take worker) (place : next.place = Function.update state.place worker .away)
    (line : next.notify.waiters.length ≤ state.notify.waiters.length) : next.work < state.work := by
  simp only [SharedQueue.take, found] at shared
  by_cases dirty : key ∈ state.shared.queue.dirty
  · have fewer := WorkQueue.length_dirty_of_take? found dirty
    exact Prod.Lex.toLex_lt_toLex.2 (.inl (by rwa [shared]))
  · have same := WorkQueue.dirty_of_take? found dirty
    have nearer := WorkQueue.ahead_of_take? found dirty
    have loaded : next.burden worker = state.burden worker + 3 := by
      simp only [burden, shared, place, looking, steps, Function.update_self, List.length_cons]
    refine work_lt (by rw [shared, same]) (effort_lt worker ?_ ?_)
    · intro other apart
      simp only [burden, shared, place, Function.update_of_ne apart]
    · rw [shared, loaded]
      dsimp only
      omega

theorem Stepped.work_le {next : NotifiedQueue κ ω} {moved : Prop} (stepped : Stepped state moved next) :
    next.work ≤ state.work ∧ (moved → next.work < state.work) := by
  have strict (less : next.work < state.work) : next.work ≤ state.work ∧ (moved → next.work < state.work) :=
    ⟨less.le, fun _ => less⟩
  cases stepped with
  | beside waiting dirty hands place line less =>
    have same : ∑ worker, next.burden worker = ∑ worker, state.burden worker :=
      Finset.sum_congr rfl (fun worker _ => by rw [burden, burden, hands, place])
    have ahead : next.shared.queue.ahead = state.shared.queue.ahead := by rw [WorkQueue.ahead, waiting, dirty]; rfl
    constructor
    · refine Prod.Lex.toLex_le_toLex.2 (.inr ⟨congrArg List.length dirty, ?_⟩)
      simp only [effort, same, ahead]
      omega
    · intro moved
      have fewer := less moved
      refine work_lt dirty ?_
      simp only [effort, same, ahead]
      omega
  | came worker before free shared place line =>
    have nearer : next.burden worker + 2 = state.burden worker := by
      rcases before with away | waits
      · simp [burden, shared, place, away, steps]
      · simp [burden, shared, place, waits, steps]
    refine strict (work_lt (by rw [shared]) (effort_lt worker ?_ ?_))
    · intro other apart
      rw [burden, burden, shared, place, Function.update_of_ne apart]
    · rw [shared]
      omega
  | took worker key queue looking found shared place line => exact strict (work_took looking found shared place line)
  | stopped worker looking none shared place line =>
    have nearer : next.burden worker + 1 = state.burden worker := by
      simp [burden, shared, place, looking, steps]
    refine strict (work_lt (by rw [shared]) (effort_lt worker ?_ ?_))
    · intro other apart
      rw [burden, burden, shared, place, Function.update_of_ne apart]
    · rw [shared]
      omega
  | gaveBack worker key holds shared place line =>
    simp only [SharedQueue.giveBack, if_pos holds] at shared
    have some := List.length_pos_of_mem holds
    have nearer : next.burden worker + 1 = state.burden worker := by
      simp only [burden, shared, place, Function.update_self, List.length_erase_of_mem holds]
      omega
    refine strict (work_lt (by simp only [shared, WorkQueue.dirty_done]) (effort_lt worker ?_ ?_))
    · intro other apart
      simp only [burden, shared, place, Function.update_of_ne apart]
    · rw [shared, line]
      simp only [WorkQueue.ahead_done]
      omega
  | strayed key idle shared place line =>
    have same : next.work = state.work := by
      simp only [work, effort, burden, shared, place, line, WorkQueue.dirty_done, WorkQueue.ahead_done]
    exact ⟨same.le, fun moved => absurd moved idle⟩

/-- Work is never added, so that it comes to its least. Then nobody can get on any more. -/
theorem Draining.drains (draining : state.Draining) {run : Nat → Act κ ω}
    (diligent : ∀ n, (state.along run n).Diligent (run n)) (lively : state.Lively run) :
    ∃ n, ∀ m, n ≤ m → (state.along run m).Drained := by
  let left (n : Nat) : Nat ×ₗ Nat := (state.along run n).work
  have step (n : Nat) : left (n + 1) ≤ left n ∧ ((state.along run n).Moves (run n) → left (n + 1) < left n) := by
    have worked := (stepped _ (draining.along diligent n).closed (diligent n)).work_le
    rwa [← along_succ] at worked
  have down : Antitone left := antitone_nat_of_succ_le (fun n => (step n).1)
  refine ⟨Function.argmin left, fun m late => (draining.along diligent m).drained (fun act moves => ?_)⟩
  obtain ⟨later, after, moved⟩ := lively m act moves
  -- Whoever gets on after the least work was reached would drop less than that.
  have less : left (later + 1) < left (Function.argmin left) :=
    ((step later).2 moved).trans_le (down (Nat.le_trans late after))
  exact absurd less (Function.argmin_le left (later + 1)).not_gt

end

/-- A queue that is shut down takes on no more work. If keys are given back only by those who hold them, then it hands
out each key at most once for which there was work, and none else. Whether they are or not, if its workers go on, and
one of them has not stopped before, then all of them stop; by then they have got each of these keys and given back all
that they had. -/
theorem shutdown_drains [Fintype ω] (before : List (Act κ ω)) :
    (∀ acts act key, key ∈ ((reached before).shutDown.after (acts ++ [act])).shared.queue.dirty →
      key ∈ ((reached before).shutDown.after acts).shared.queue.dirty) ∧
    (∀ acts, (∀ act ∈ before ++ acts, act.Honest) →
      ((reached before).shutDown.handedOut acts).Nodup ∧
      (∀ key ∈ (reached before).shutDown.handedOut acts, key ∈ (reached before).shutDown.shared.queue.dirty) ∧
      ((reached before).shutDown.handedOut acts).length ≤ (reached before).shutDown.shared.queue.dirty.toFinset.card) ∧
    ((∃ worker, (reached before).shutDown.place worker ≠ .gone) →
      (∀ worker, (reached before).shutDown.shared.hands worker ≠ [] → (reached before).shutDown.place worker = .away) →
      ∀ run, (∀ n, ((reached before).shutDown.along run n).Diligent (run n)) → (reached before).shutDown.Lively run →
        ∃ n, ∀ m, n ≤ m → ((reached before).shutDown.along run m).Drained ∧
          ∀ key ∈ (reached before).shutDown.shared.queue.dirty,
            key ∈ (reached before).shutDown.handedOut ((List.range m).map run)) := by
  have closed : (reached before).shutDown.shared.queue.closed = true := (reached before).closed_shutDown []
  refine ⟨fun acts act key dirty => ?_, fun acts honest => ?_, fun someone alternating run diligent lively => ?_⟩
  · rw [after_append] at dirty
    exact ((mem_dirty_perform ((reached before).closed_shutDown acts) act key).1 dirty).1
  · obtain ⟨earlier, later⟩ := List.forall_mem_append.1 honest
    have sound : (reached before).shutDown.shared.Sound := (sound_after SharedQueue.Sound.start earlier).perform .close
    generalize (reached before).shutDown = state at sound closed ⊢
    obtain ⟨once, owed⟩ := handedOut_of_closed sound closed later
    refine ⟨once, owed, ?_⟩
    calc
      (state.handedOut acts).length = (state.handedOut acts).toFinset.card := (List.toFinset_card_of_nodup once).symm
      _ ≤ state.shared.queue.dirty.toFinset.card :=
        Finset.card_le_card (fun key got => List.mem_toFinset.2 (owed key (List.mem_toFinset.1 got)))
  · have orderly : ∃ lost, (reached before).shutDown.Orderly lost :=
      ⟨_, (Orderly.reached before).perform (.queue .close)⟩
    have traced : (reached before).shutDown.shared.Traced :=
      (traced_after SharedQueue.Traced.start before).perform .close
    generalize (reached before).shutDown = state at *
    obtain ⟨worker, there⟩ := someone
    have draining : state.Draining := ⟨orderly, traced, closed, alternating, fun gone => absurd (gone worker) there⟩
    obtain ⟨n, drained⟩ := draining.drains diligent lively
    refine ⟨n, fun m late => ⟨drained m late, fun key dirty => ?_⟩⟩
    have empty : (state.after ((List.range m).map run)).shared.queue.dirty = [] := (drained m late).dirty
    exact (served_or_dirty closed ((List.range m).map run) dirty).resolve_right (by simp [empty])

/-- A key that waits is given back all the same, and so it is in line twice. -/
theorem stray_handed_out_twice :
    (reached [.queue (.add 7), .stray 7] : NotifiedQueue Nat Unit).shutDown.shared.queue.dirty = [7] ∧
      (reached [.queue (.add 7), .stray 7] : NotifiedQueue Nat Unit).shutDown.handedOut
        [.enter (), .queue (.take ()), .queue (.done () 7), .enter (), .queue (.take ())] = [7, 7] ∧
      ¬ ∀ before acts : List (Act Nat Unit), ((reached before).shutDown.handedOut acts).Nodup := by
  have twice : (reached [.queue (.add 7), .stray 7] : NotifiedQueue Nat Unit).shutDown.handedOut
      [.enter (), .queue (.take ()), .queue (.done () 7), .enter (), .queue (.take ())] = [7, 7] := by decide
  refine ⟨by decide, twice, fun once => ?_⟩
  have different := once [.queue (.add 7), .stray 7] [.enter (), .queue (.take ()), .queue (.done () 7), .enter (),
    .queue (.take ())]
  rw [twice] at different
  exact absurd different (by decide)

/-- A worker gets the last key, asks for it again in vain, and gives it back. -/
def lastPass : Nat → Act Nat Unit
  | 0 => .enter ()
  | 1 => .queue (.take ())
  | 2 => .queue (.add 7)
  | 3 => .queue (.done () 7)
  | 4 => .enter ()
  | 5 => .queue (.take ())
  | _ => .notifyOne

/-- What the last pass begins with. -/
def lastKey : NotifiedQueue Nat Unit :=
  (reached [.queue (.add 7), .notifyOne]).shutDown

theorem lastKey_along (n : Nat) : lastKey.along lastPass (n + 6) = lastKey.along lastPass 6 := by
  induction n with
  | zero => rfl
  | succ n ih =>
    rw [Nat.add_right_comm, along_succ, ih]
    rfl

theorem lastKey_still (act : Act Nat Unit) : ¬ (lastKey.along lastPass 6).Moves act := by
  have gone : (lastKey.along lastPass 6).place () = .gone := by decide
  have free : (lastKey.along lastPass 6).shared.hands () = [] := by decide
  have line : (lastKey.along lastPass 6).notify.waiters = [] := by decide
  cases act with
  | queue act => cases act <;> simp [Moves, gone, free]
  | _ => simp [Moves, gone, line]

theorem shutdown_drains_lastPass :
    (∀ act ∈ [.queue (.add 7), .notifyOne] ++ (List.range 6).map lastPass, act.Honest) ∧
      (lastKey.handedOut ((List.range 6).map lastPass)).Nodup ∧
      (∃ worker, lastKey.place worker ≠ .gone) ∧
      (∀ worker, lastKey.shared.hands worker ≠ [] → lastKey.place worker = .away) ∧
      (∀ n, (lastKey.along lastPass n).Diligent (lastPass n)) ∧ lastKey.Lively lastPass ∧
      ∃ n, ∀ m, n ≤ m → (lastKey.along lastPass m).Drained ∧
        ∀ key ∈ lastKey.shared.queue.dirty, key ∈ lastKey.handedOut ((List.range m).map lastPass) := by
  have honest : ∀ act ∈ [.queue (.add 7), .notifyOne] ++ (List.range 6).map lastPass, act.Honest := by
    simp [List.range_succ, lastPass, Act.Honest]
  have someone : ∃ worker, lastKey.place worker ≠ .gone := ⟨(), by decide⟩
  have alternating : ∀ worker, lastKey.shared.hands worker ≠ [] → lastKey.place worker = .away := by decide
  have diligent (n : Nat) : (lastKey.along lastPass n).Diligent (lastPass n) :=
    match n with
    | 0 | 4 => ⟨by decide, by decide⟩
    | 1 | 2 | 3 | 5 | _ + 6 => trivial
  have lively : lastKey.Lively lastPass := by
    intro n act moves
    by_cases early : n ≤ 5
    · exact ⟨5, early, (by decide : (lastKey.along lastPass 5).place () = .looking)⟩
    · obtain ⟨k, rfl⟩ := Nat.exists_eq_add_of_le' (Nat.not_le.1 early)
      rw [lastKey_along] at moves
      exact absurd moves (lastKey_still act)
  obtain ⟨-, once, drains⟩ := shutdown_drains ([.queue (.add 7), .notifyOne] : List (Act Nat Unit))
  exact ⟨honest, (once _ honest).1, someone, alternating, diligent, lively,
    drains someone alternating lastPass diligent lively⟩

end NotifiedQueue

end VipKeeper
