import VipKeeper.Proofs.Queue.Closing
import VipKeeper.Rehearsal.Desk

/-! The calls by which workers get the keys of a shared queue, and the notifications for which they wait.

A call listens for a notification before it looks for a key, so that it misses none for a key that comes after its look.
The notification is made only some time after the key has come. In the meantime workers look, are dropped, and take keys
for which there will be notifications later. -/

namespace VipKeeper

namespace SharedQueue

variable {κ ω : Type} [DecidableEq κ]

/-- Whether a key comes to wait by an act, so that a worker has to be notified. -/
def notifies (shared : SharedQueue κ ω) : Act κ ω → Bool
  | .add key => (shared.queue.add key).2
  | .addAfter key span => decide (span.nanoseconds = 0) && (shared.queue.add key).2
  | .ring key => decide (key ∈ shared.alarms) && (shared.queue.add key).2
  | .done worker key => decide (key ∈ shared.hands worker) && (shared.queue.done key).2
  | _ => false

variable [DecidableEq ω]

theorem length_waiting_perform (shared : SharedQueue κ ω) (act : Act κ ω) :
    (shared.perform act).queue.waiting.length ≤ shared.queue.waiting.length + (shared.notifies act).toNat := by
  have added (key : κ) : (shared.add key).queue.waiting.length =
      shared.queue.waiting.length + (shared.queue.add key).2.toNat := by
    rw [add, WorkQueue.waiting_add, List.length_append]
    cases (shared.queue.add key).2 <;> rfl
  cases act with
  | add key => exact Nat.le_of_eq (added key)
  | addAfter key span =>
    simp only [perform, addAfter, notifies]
    split
    next now => simp [now, added]
    next => split <;> simp
  | fail | forget | close => exact Nat.le_add_right _ _
  | ring key =>
    simp only [perform, notifies]
    split
    next due => simpa [due] using Nat.le_of_eq (added key)
    next => simp
  | take worker =>
    simp only [perform, take]
    split
    next => exact Nat.le_add_right _ _
    next key queue found => simp [(WorkQueue.took_of_take? found).waiting, notifies]
  | done worker key =>
    simp only [perform, giveBack, notifies]
    split
    next holds =>
      rw [WorkQueue.waiting_done, List.length_append]
      cases (shared.queue.done key).2 <;> simp [holds]
    next => simp

end SharedQueue

/-- How far a worker is with its call for a key. It may have made none, be about to look at the queue, wait to be
notified, or have been told that there will be no more keys. -/
inductive Place where
  | away
  | looking
  | waiting
  | gone
  deriving DecidableEq

/-- A shared queue and the calls for its keys. The workers of `notified` have each been notified alone and have not come
back; those of `woken` have come back to look and have not looked yet. Of the notifications that are still to be made,
`notifies` are for one worker each and `broadcasts` for all who listen. -/
structure NotifiedQueue (κ ω : Type) where
  shared : SharedQueue κ ω
  notify : Notify ω
  place : ω → Place
  notified : List ω
  woken : List ω
  notifies : Nat
  broadcasts : Nat

namespace NotifiedQueue

/-- What can happen. To take a key of the queue is to look for one, and a call can be dropped wherever it is. Keys may
also be given back that nobody holds. -/
inductive Act (κ ω : Type) where
  | queue (act : SharedQueue.Act κ ω)
  | stray (key : κ)
  | enter (worker : ω)
  | wake (worker : ω)
  | drop (worker : ω)
  | notifyOne
  | notifyWaiters

variable {κ ω : Type}

def start : NotifiedQueue κ ω :=
  ⟨.start, .empty, fun _ => .away, [], [], 0, 0⟩

/-- Who listens for a notification: those in line, and those for whom it was made. -/
def listeners (state : NotifiedQueue κ ω) : List ω :=
  state.notify.waiters ++ state.notified

/-- Whether a worker waits and will come back only after another notification. -/
def Blocked (state : NotifiedQueue κ ω) (worker : ω) : Prop :=
  state.place worker = .waiting ∧ worker ∈ state.notify.waiters

/-- Everything that will make a worker look. -/
def wakeups (state : NotifiedQueue κ ω) : Nat :=
  state.notifies + state.notified.length + state.woken.length

/-- While a worker is blocked something will make a worker look for every key, except for as many keys as notifications
were lost, and once everybody was notified of a closing nobody is blocked. -/
structure Orderly (lost : Nat) (state : NotifiedQueue κ ω) : Prop where
  line : state.listeners.Nodup
  inside : ∀ worker ∈ state.listeners, state.place worker = .looking ∨ state.place worker = .waiting
  once : state.woken.Nodup
  back : ∀ worker ∈ state.woken, state.place worker = .looking
  kept : state.notify.permit = true → state.notify.waiters = []
  enough : ∀ worker, state.Blocked worker → state.shared.queue.waiting.length ≤ state.wakeups + lost
  released : state.shared.queue.closed = true → state.broadcasts = 0 → ∀ worker, ¬ state.Blocked worker

variable {state : NotifiedQueue κ ω} {worker : ω} {lost : Nat}

theorem Orderly.start : (NotifiedQueue.start : NotifiedQueue κ ω).Orderly 0 := by
  constructor <;> simp [NotifiedQueue.start, Notify.empty, Blocked, listeners]

theorem Orderly.idle_of_ne (orderly : state.Orderly lost) (elsewhere : state.place worker ≠ .looking) :
    worker ∉ state.woken :=
  fun waits => elsewhere (orderly.back worker waits)

/-- Fewer may listen as long as they stay where they are, and no wake-up that a key needs is lost unnoticed. -/
theorem Orderly.of_fewer {next : NotifiedQueue κ ω} {more : Nat} (orderly : state.Orderly lost)
    (waiters : next.notify.waiters.Sublist state.notify.waiters) (notified : next.notified.Sublist state.notified)
    (kept : next.notify.permit = state.notify.permit)
    (still : ∀ worker ∈ next.listeners, next.place worker = state.place worker)
    (once : next.woken.Nodup) (back : ∀ worker ∈ next.woken, next.place worker = .looking)
    (enough : next.shared.queue.waiting = [] ∨
      next.shared.queue.waiting.length + (state.wakeups + lost) ≤
        state.shared.queue.waiting.length + (next.wakeups + more))
    (closing : next.shared.queue.closed = true → next.broadcasts = 0 →
      state.shared.queue.closed = true ∧ state.broadcasts = 0) : next.Orderly more := by
  have fewer : next.listeners.Sublist state.listeners := waiters.append notified
  have before (worker : ω) (blocked : next.Blocked worker) : state.Blocked worker := by
    have same := still worker (List.mem_append_left _ blocked.2)
    exact ⟨same ▸ blocked.1, waiters.subset blocked.2⟩
  refine ⟨orderly.line.sublist fewer, ?_, once, back, ?_, ?_, ?_⟩
  · intro worker listens
    rw [still worker listens]
    exact orderly.inside worker (fewer.subset listens)
  · intro permit
    have nobody := orderly.kept (kept ▸ permit)
    exact List.sublist_nil.1 (nobody ▸ waiters)
  · intro worker blocked
    have before := orderly.enough worker (before worker blocked)
    rcases enough with none | enough
    · simp [none]
    · omega
  · intro closed broadcasts worker blocked
    obtain ⟨closed, broadcasts⟩ := closing closed broadcasts
    exact orderly.released closed broadcasts worker (before worker blocked)

/-! ### Notifications -/

/-- Whoever begins to listen uses up the permit, or else gets in line. -/
def enable (state : NotifiedQueue κ ω) (worker : ω) : NotifiedQueue κ ω :=
  { state with notify := if state.notify.permit then state.notify.takePermit else state.notify.enlist worker }

def notifyOne (state : NotifiedQueue κ ω) : NotifiedQueue κ ω :=
  if state.notifies = 0 then state
  else match state.notify.notifyOne with
    | (notify, none) => { state with notify := notify, notifies := state.notifies - 1 }
    | (notify, some worker) =>
      { state with notify := notify, notified := worker :: state.notified, notifies := state.notifies - 1 }

def notifyWaiters (state : NotifiedQueue κ ω) : NotifiedQueue κ ω :=
  if state.broadcasts = 0 then state
  else { state with notify := state.notify.notifyWaiters.1, broadcasts := state.broadcasts - 1 }

theorem length_waiters_enable (state : NotifiedQueue κ ω) (worker : ω) :
    (state.enable worker).notify.waiters.length ≤ state.notify.waiters.length + 1 := by
  unfold enable
  split
  · exact Nat.le_add_right _ 1
  · exact Nat.le_of_eq List.length_append

/-- What comes of a notification that is due: it is kept as a permit, or it is for the first in line. -/
theorem notifyOne_cases (state : NotifiedQueue κ ω) :
    state.notifyOne = state ∨
      (state.notify.waiters = [] ∧
        state.notifyOne = { state with notify := ⟨true, []⟩, notifies := state.notifies - 1 }) ∨
      ∃ first rest, state.notify.waiters = first :: rest ∧ 0 < state.notifies ∧ state.notifyOne = { state with
        notify := ⟨state.notify.permit, rest⟩
        notified := first :: state.notified
        notifies := state.notifies - 1 } := by
  unfold notifyOne Notify.notifyOne
  split
  next => exact .inl rfl
  next due =>
    cases state.notify.waiters with
    | nil => exact .inr (.inl ⟨rfl, rfl⟩)
    | cons first rest => exact .inr (.inr ⟨first, rest, rfl, Nat.pos_of_ne_zero due, rfl⟩)

@[simp] theorem shared_notifyOne (state : NotifiedQueue κ ω) : state.notifyOne.shared = state.shared := by
  rcases state.notifyOne_cases with same | ⟨-, same⟩ | ⟨_, _, -, -, same⟩ <;> rw [same]

@[simp] theorem place_notifyOne (state : NotifiedQueue κ ω) : state.notifyOne.place = state.place := by
  rcases state.notifyOne_cases with same | ⟨-, same⟩ | ⟨_, _, -, -, same⟩ <;> rw [same]

@[simp] theorem woken_notifyOne (state : NotifiedQueue κ ω) : state.notifyOne.woken = state.woken := by
  rcases state.notifyOne_cases with same | ⟨-, same⟩ | ⟨_, _, -, -, same⟩ <;> rw [same]

theorem waiters_notifyOne (state : NotifiedQueue κ ω) :
    state.notifyOne.notify.waiters.Sublist state.notify.waiters := by
  rcases state.notifyOne_cases with same | ⟨-, same⟩ | ⟨first, rest, line, -, same⟩ <;> rw [same]
  · exact List.nil_sublist _
  · rw [line]
    exact List.sublist_cons_self first rest

theorem listeners_notifyOne (state : NotifiedQueue κ ω) : state.notifyOne.listeners.Perm state.listeners := by
  rcases state.notifyOne_cases with same | ⟨nobody, same⟩ | ⟨first, rest, line, -, same⟩
  · rw [same]
  · simp [same, listeners, nobody]
  · simp only [same, listeners, line]
    exact List.perm_middle

theorem Orderly.notifyOne (orderly : state.Orderly lost) : state.notifyOne.Orderly lost := by
  have heard := state.listeners_notifyOne
  have line := heard.nodup_iff.2 orderly.line
  have inside (worker : ω) (listens : worker ∈ state.notifyOne.listeners) :=
    orderly.inside worker (heard.mem_iff.1 listens)
  rcases state.notifyOne_cases with same | ⟨-, same⟩ | ⟨first, rest, waiters, due, same⟩ <;> rw [same] at line ⊢
  · exact orderly
  · rw [same] at inside
    refine ⟨line, inside, orderly.once, orderly.back, fun _ => rfl, ?_, ?_⟩
    · rintro worker ⟨-, listens⟩
      cases listens
    · rintro - - worker ⟨-, listens⟩
      cases listens
  · -- One notification less is due, and one worker more is notified.
    rw [same] at inside
    have before (worker : ω) (listens : worker ∈ rest) : worker ∈ state.notify.waiters :=
      waiters ▸ List.mem_cons_of_mem first listens
    refine ⟨line, inside, orderly.once, orderly.back, ?_, ?_, ?_⟩
    · intro kept
      exact absurd (orderly.kept kept) (by simp [waiters])
    · rintro worker ⟨waits, listens⟩
      have enough := orderly.enough worker ⟨waits, before worker listens⟩
      simp only [wakeups, List.length_cons] at enough ⊢
      omega
    · rintro closed broadcasts worker ⟨waits, listens⟩
      exact orderly.released closed broadcasts worker ⟨waits, before worker listens⟩

theorem Orderly.notifyWaiters (orderly : state.Orderly lost) : state.notifyWaiters.Orderly lost := by
  unfold NotifiedQueue.notifyWaiters
  split
  next => exact orderly
  next =>
    refine ⟨?_, ?_, orderly.once, orderly.back, fun _ => rfl, ?_, ?_⟩
    · exact (List.nodup_append.1 orderly.line).2.1
    · intro worker listens
      exact orderly.inside worker (List.mem_append_right _ listens)
    · rintro worker ⟨-, listens⟩
      cases listens
    · rintro - - worker ⟨-, listens⟩
      cases listens

theorem Orderly.enable (orderly : state.Orderly lost) (looking : state.place worker = .looking)
    (deaf : worker ∉ state.listeners) : (state.enable worker).Orderly lost := by
  unfold NotifiedQueue.enable
  split
  next kept =>
    -- Nobody stood in line when the permit was left, so that nobody misses it.
    have nobody := orderly.kept kept
    exact ⟨orderly.line, orderly.inside, orderly.once, orderly.back, fun _ => nobody, orderly.enough, orderly.released⟩
  next silent =>
    have heard : (state.notify.enlist worker).waiters ++ state.notified =
        state.notify.waiters ++ worker :: state.notified := List.append_assoc _ _ _
    have before (other : ω) (blocked : Blocked { state with notify := state.notify.enlist worker } other) :
        state.Blocked other := by
      obtain ⟨waits, listens⟩ := blocked
      rcases List.mem_append.1 listens with before | new
      · exact ⟨waits, before⟩
      · rw [List.mem_singleton.1 new] at waits
        exact absurd (looking.symm.trans waits) (by decide)
    refine ⟨?_, ?_, orderly.once, orderly.back, ?_, ?_, ?_⟩
    · rw [listeners, heard]
      exact List.nodup_middle.2 (List.nodup_cons.2 ⟨deaf, orderly.line⟩)
    · intro other listens
      rw [listeners, heard, List.perm_middle.mem_iff, List.mem_cons] at listens
      rcases listens with rfl | known
      · exact .inl looking
      · exact orderly.inside other known
    · intro kept
      exact absurd kept silent
    · intro other blocked
      exact orderly.enough other (before other blocked)
    · intro closed broadcasts other blocked
      exact orderly.released closed broadcasts other (before other blocked)

/-- Every key that comes to wait has a notification of its own. -/
theorem Orderly.serve (orderly : state.Orderly lost) {shared : SharedQueue κ ω} {notifies : Nat}
    (enough : shared.queue.waiting.length ≤ state.shared.queue.waiting.length + notifies)
    (closed : shared.queue.closed = state.shared.queue.closed) :
    { state with shared := shared, notifies := state.notifies + notifies }.Orderly lost := by
  refine orderly.of_fewer (.refl _) (.refl _) rfl (fun _ _ => rfl) orderly.once orderly.back (.inr ?_) ?_
  · simp only [wakeups]
    omega
  · intro after broadcasts
    exact ⟨closed ▸ after, broadcasts⟩

variable [DecidableEq ω]

/-- A worker listens no more. If it was notified and has not come back, the next worker is notified at once. -/
def dropNotified (state : NotifiedQueue κ ω) (worker : ω) : NotifiedQueue κ ω :=
  let rest := { state with notify := state.notify.remove worker, notified := state.notified.erase worker }
  if worker ∈ state.notified then { rest with notifies := rest.notifies + 1 }.notifyOne else rest

@[simp] theorem shared_dropNotified (state : NotifiedQueue κ ω) (worker : ω) :
    (state.dropNotified worker).shared = state.shared := by
  unfold dropNotified
  dsimp only
  split
  · exact shared_notifyOne _
  · rfl

@[simp] theorem place_dropNotified (state : NotifiedQueue κ ω) (worker : ω) :
    (state.dropNotified worker).place = state.place := by
  unfold dropNotified
  dsimp only
  split
  · exact place_notifyOne _
  · rfl

@[simp] theorem woken_dropNotified (state : NotifiedQueue κ ω) (worker : ω) :
    (state.dropNotified worker).woken = state.woken := by
  unfold dropNotified
  dsimp only
  split
  · exact woken_notifyOne _
  · rfl

theorem waiters_dropNotified (state : NotifiedQueue κ ω) (worker : ω) :
    (state.dropNotified worker).notify.waiters.Sublist state.notify.waiters := by
  unfold dropNotified
  dsimp only
  split
  · exact (waiters_notifyOne _).trans List.filter_sublist
  · exact List.filter_sublist

theorem Orderly.unheard (orderly : state.Orderly lost) (worker : ω) {notifies : Nat}
    (enough : state.notifies + state.notified.length ≤ notifies + (state.notified.erase worker).length) :
    { state with
      notify := state.notify.remove worker
      notified := state.notified.erase worker
      notifies := notifies }.Orderly lost := by
  refine orderly.of_fewer List.filter_sublist List.erase_sublist rfl (fun _ _ => rfl) orderly.once orderly.back
    (.inr ?_) (fun closed broadcasts => ⟨closed, broadcasts⟩)
  simp only [wakeups]
  omega

theorem Orderly.dropNotified (orderly : state.Orderly lost) (worker : ω) :
    (state.dropNotified worker).Orderly lost := by
  unfold NotifiedQueue.dropNotified
  dsimp only
  split
  next notified =>
    -- The notification is not lost: it is made again for the next worker.
    refine (orderly.unheard worker ?_).notifyOne
    have one := List.length_erase_of_mem notified
    have some := List.length_pos_of_mem notified
    omega
  next unnotified =>
    refine orderly.unheard worker ?_
    exact Nat.le_of_eq (by rw [List.erase_of_not_mem unnotified])

theorem Orderly.deaf_of_dropNotified (orderly : state.Orderly lost) (worker : ω) :
    worker ∉ (state.dropNotified worker).listeners := by
  have gone : worker ∉ (state.notify.remove worker).waiters ++ state.notified.erase worker := by
    have once := (List.nodup_append.1 orderly.line).2.1
    simp [Notify.remove, once.not_mem_erase]
  unfold NotifiedQueue.dropNotified
  dsimp only
  split
  next => rwa [(listeners_notifyOne _).mem_iff]
  next => exact gone

/-! ### The workers -/

def move (state : NotifiedQueue κ ω) (worker : ω) (place : Place) : NotifiedQueue κ ω :=
  { state with place := Function.update state.place worker place }

theorem place_move_of_mem {state : NotifiedQueue κ ω} {others : List ω} (absent : worker ∉ others) (place : Place) :
    ∀ other ∈ others, (state.move worker place).place other = state.place other := by
  intro other inside
  apply Function.update_of_ne
  rintro rfl
  exact absent inside

theorem Orderly.move (orderly : state.Orderly lost) (deaf : worker ∉ state.listeners) (idle : worker ∉ state.woken)
    (place : Place) : (state.move worker place).Orderly lost := by
  refine orderly.of_fewer (.refl _) (.refl _) rfl (place_move_of_mem deaf place) orderly.once ?_ (.inr (Nat.le_refl _))
    (fun closed broadcasts => ⟨closed, broadcasts⟩)
  intro other waits
  exact (place_move_of_mem idle place other waits).trans (orderly.back other waits)

def enter (state : NotifiedQueue κ ω) (worker : ω) : NotifiedQueue κ ω :=
  if state.place worker = .away ∨ state.place worker = .gone then (state.move worker .looking).enable worker
  else state

theorem Orderly.enter (orderly : state.Orderly lost) (worker : ω) : (state.enter worker).Orderly lost := by
  unfold NotifiedQueue.enter
  split
  next outside =>
    have deaf : worker ∉ state.listeners := fun listens => by
      rcases orderly.inside worker listens with place | place <;> simp [place] at outside
    have idle : worker ∉ state.woken := orderly.idle_of_ne (by rintro place; simp [place] at outside)
    exact (orderly.move deaf idle .looking).enable (Function.update_self ..) deaf
  next => exact orderly

/-- A worker that waits comes back when it does not stand in line any more. -/
def wake (state : NotifiedQueue κ ω) (worker : ω) : NotifiedQueue κ ω :=
  if state.place worker = .waiting ∧ worker ∉ state.notify.waiters then
    ({ state with notified := state.notified.erase worker, woken := worker :: state.woken }.move worker .looking).enable
      worker
  else state

theorem Orderly.wake (orderly : state.Orderly lost) (worker : ω) : (state.wake worker).Orderly lost := by
  unfold NotifiedQueue.wake
  split
  next notified =>
    obtain ⟨waits, unlined⟩ := notified
    have idle : worker ∉ state.woken := orderly.idle_of_ne (by simp [waits])
    have once := (List.nodup_append.1 orderly.line).2.1
    have deaf : worker ∉ state.notify.waiters ++ state.notified.erase worker := by
      simp [unlined, once.not_mem_erase]
    refine Orderly.enable ?_ (Function.update_self ..) deaf
    refine orderly.of_fewer (.refl _) List.erase_sublist rfl (place_move_of_mem deaf .looking)
      (List.nodup_cons.2 ⟨idle, orderly.once⟩) ?_ (.inr ?_) (fun closed broadcasts => ⟨closed, broadcasts⟩)
    · intro other back
      rcases List.mem_cons.1 back with rfl | before
      · exact Function.update_self ..
      · exact (place_move_of_mem idle .looking other before).trans (orderly.back other before)
    · -- The worker that was notified is now one that has come back.
      have answered : state.notified.length - 1 ≤ (state.notified.erase worker).length := List.le_length_erase
      simp only [wakeups, NotifiedQueue.move, List.length_cons]
      omega
  next => exact orderly

/-- A call can be dropped while the worker waits and while it is about to look. The notification that it listens for is
passed on, but not the one for which it has come back. -/
def drop (state : NotifiedQueue κ ω) (worker : ω) : NotifiedQueue κ ω :=
  if state.place worker = .looking ∨ state.place worker = .waiting then
    ({ state with woken := state.woken.erase worker }.dropNotified worker).move worker .away
  else state

/-- Whether a worker is dropped that has come back to look and has not looked yet. -/
def loses (state : NotifiedQueue κ ω) : Act κ ω → Bool
  | .drop worker => decide (worker ∈ state.woken)
  | _ => false

theorem Orderly.forgotten (orderly : state.Orderly lost) (worker : ω) :
    { state with woken := state.woken.erase worker }.Orderly (lost + (decide (worker ∈ state.woken)).toNat) := by
  refine orderly.of_fewer (.refl _) (.refl _) rfl (fun _ _ => rfl) (orderly.once.erase worker) ?_ (.inr ?_)
    (fun closed broadcasts => ⟨closed, broadcasts⟩)
  · intro other back
    exact orderly.back other (List.mem_of_mem_erase back)
  · by_cases woken : worker ∈ state.woken
    · have one : state.woken.length - 1 ≤ (state.woken.erase worker).length := List.le_length_erase
      simp only [wakeups, woken, decide_true, Bool.toNat_true]
      omega
    · simp [wakeups, woken, List.erase_of_not_mem]

theorem Orderly.drop (orderly : state.Orderly lost) (worker : ω) :
    (state.drop worker).Orderly (lost + (state.loses (.drop worker : Act κ ω)).toNat) := by
  have idle : worker ∉ state.woken.erase worker := orderly.once.not_mem_erase
  unfold NotifiedQueue.drop
  split
  next =>
    have forgotten := orderly.forgotten worker
    exact (forgotten.dropNotified worker).move (forgotten.deaf_of_dropNotified worker)
      (by rwa [woken_dropNotified]) .away
  next outside =>
    -- Whoever has come back is about to look.
    have unwoken : worker ∉ state.woken := orderly.idle_of_ne (fun looking => outside (.inl looking))
    simpa [loses, unwoken] using orderly

/-! ### Looking for keys -/

theorem Orderly.looked (orderly : state.Orderly lost) (worker : ω) {shared : SharedQueue κ ω}
    (taken : shared.queue.waiting = [] ∨ shared.queue.waiting.length + 1 ≤ state.shared.queue.waiting.length)
    (closed : shared.queue.closed = state.shared.queue.closed) :
    { state with shared := shared, woken := state.woken.erase worker }.Orderly lost := by
  refine orderly.of_fewer (.refl _) (.refl _) rfl (fun _ _ => rfl) (orderly.once.erase worker) ?_ ?_ ?_
  · intro other back
    exact orderly.back other (List.mem_of_mem_erase back)
  · have one : state.woken.length - 1 ≤ (state.woken.erase worker).length := List.le_length_erase
    refine taken.imp_right (fun taken => ?_)
    simp only [wakeups]
    omega
  · intro after broadcasts
    exact ⟨closed ▸ after, broadcasts⟩

/-- Nobody is blocked for good who finds an open queue empty, for a key that comes later has its notification. -/
theorem Orderly.wait (orderly : state.Orderly lost) (idle : worker ∉ state.woken)
    (empty : state.shared.queue.waiting = []) (opened : state.shared.queue.closed = false) :
    (state.move worker .waiting).Orderly lost := by
  refine ⟨orderly.line, ?_, orderly.once, ?_, orderly.kept, ?_, ?_⟩
  · intro other listens
    by_cases same : other = worker
    · exact .inr (same ▸ Function.update_self ..)
    · have still : (state.move worker .waiting).place other = state.place other := Function.update_of_ne same _ _
      rw [still]
      exact orderly.inside other listens
  · intro other back
    exact (place_move_of_mem idle .waiting other back).trans (orderly.back other back)
  · intro _ _
    have none : (state.move worker .waiting).shared.queue.waiting.length = 0 := by rw [NotifiedQueue.move, empty]; rfl
    omega
  · intro closed
    exact absurd (opened.symm.trans closed) (by decide)

variable [DecidableEq κ]

def look (state : NotifiedQueue κ ω) (worker : ω) : NotifiedQueue κ ω :=
  if state.place worker = .looking then
    let looked := { state with woken := state.woken.erase worker }
    match state.shared.queue.take? with
    | some _ => ({ looked with shared := state.shared.take worker }.dropNotified worker).move worker .away
    | none =>
      if state.shared.queue.closed then (looked.dropNotified worker).move worker .gone else looked.move worker .waiting
  else state

theorem Orderly.look (orderly : state.Orderly lost) (worker : ω) : (state.look worker).Orderly lost := by
  have idle : worker ∉ state.woken.erase worker := orderly.once.not_mem_erase
  unfold NotifiedQueue.look
  split
  next looking =>
    dsimp only
    split
    next taken found =>
      have took := WorkQueue.took_of_take? found
      have shared : (state.shared.take worker).queue = taken.2 := by
        simp only [SharedQueue.take, found]
      -- Whoever had come back has looked, but there is one key less to look for.
      have fewer : (state.shared.take worker).queue.waiting.length + 1 ≤ state.shared.queue.waiting.length := by
        rw [shared, took.waiting]
        exact Nat.le_refl _
      have looked := orderly.looked worker (.inr fewer) (by rw [shared]; exact took.closed)
      exact (looked.dropNotified worker).move (looked.deaf_of_dropNotified worker) (by rwa [woken_dropNotified]) .away
    next none =>
      -- No key waits, and so nobody needs to come back.
      have empty := WorkQueue.waiting_of_take? none
      have looked := orderly.looked worker (.inl empty) rfl
      split
      next closed =>
        exact (looked.dropNotified worker).move (looked.deaf_of_dropNotified worker) (by rwa [woken_dropNotified]) .gone
      next opened => exact looked.wait idle empty (Bool.eq_false_iff.2 opened)
  next => exact orderly

/-- What a worker finds that looks. It gets a key if there is one, stops if the queue is closed, and waits otherwise. -/
theorem found (state : NotifiedQueue κ ω) {worker : ω} (looking : state.place worker = .looking) :
    (∃ key queue, state.shared.queue.take? = some (key, queue) ∧ (state.look worker).shared = state.shared.take worker ∧
        (state.look worker).place = Function.update state.place worker .away) ∨
      (state.shared.queue.take? = none ∧ (state.look worker).shared = state.shared ∧
        (state.look worker).place =
          Function.update state.place worker (if state.shared.queue.closed then .gone else .waiting)) := by
  unfold look
  rw [if_pos looking]
  cases found : state.shared.queue.take? with
  | some taken => exact .inl ⟨taken.1, taken.2, rfl, by simp [move]⟩
  | none =>
    refine .inr ⟨rfl, ?_⟩
    cases state.shared.queue.closed <;> simp [move]

theorem waiters_look (state : NotifiedQueue κ ω) (worker : ω) :
    (state.look worker).notify.waiters.Sublist state.notify.waiters := by
  unfold look
  split
  next =>
    dsimp only
    split
    next => exact waiters_dropNotified _ worker
    next =>
      split
      · exact waiters_dropNotified _ worker
      · exact .refl _
  next => exact .refl _

/-! ### All acts -/

/-- What comes of an act. A notification is not made by the act that calls for it, but some time later. -/
def perform (state : NotifiedQueue κ ω) : Act κ ω → NotifiedQueue κ ω
  | .queue (.take worker) => state.look worker
  | .queue .close => { state with shared := state.shared.perform .close, broadcasts := state.broadcasts + 1 }
  | .queue act =>
    { state with
      shared := state.shared.perform act
      notifies := state.notifies + (state.shared.notifies act).toNat }
  | .stray key =>
    { state with
      shared := { state.shared with queue := (state.shared.queue.done key).1 }
      notifies := state.notifies + (state.shared.queue.done key).2.toNat }
  | .enter worker => state.enter worker
  | .wake worker => state.wake worker
  | .drop worker => state.drop worker
  | .notifyOne => state.notifyOne
  | .notifyWaiters => state.notifyWaiters

def after (state : NotifiedQueue κ ω) (acts : List (Act κ ω)) : NotifiedQueue κ ω :=
  acts.foldl perform state

theorem after_append (state : NotifiedQueue κ ω) (first second : List (Act κ ω)) :
    state.after (first ++ second) = (state.after first).after second :=
  List.foldl_append

def reached (acts : List (Act κ ω)) : NotifiedQueue κ ω :=
  start.after acts

/-- A worker whom nobody comes between finds step by step what it finds in one go in a rehearsal. -/
theorem after_visit {τ : Type} [DecidableEq τ] {state : NotifiedQueue κ (Rehearsal.Party τ)} {desk : Rehearsal.Desk τ}
    {party : Rehearsal.Party τ} (same : state.notify = desk.notify) (away : state.place party = .away)
    (deaf : party ∉ state.listeners) :
    (state.after [.enter party, .queue (.take party), .wake party, .queue (.take party)]).notify =
        (Rehearsal.look desk state.shared.queue party).1.notify ∧
      (state.after [.enter party, .queue (.take party), .wake party, .queue (.take party)]).shared.queue =
        (Rehearsal.look desk state.shared.queue party).2.1 := by
  obtain ⟨unlined, unnotified⟩ := not_or.1 (mt List.mem_append.2 deaf)
  have left : state.notify.waiters.filter (fun other => !decide (other = party)) = state.notify.waiters := by
    apply List.filter_eq_self.2
    intro other inside
    have apart : other ≠ party := fun same => unlined (same ▸ inside)
    simpa using apart
  cases kept : state.notify.permit <;> cases found : state.shared.queue.take? <;>
    cases closed : state.shared.queue.closed <;>
      simp [after, perform, enter, look, wake, dropNotified, enable, move, Rehearsal.look, ← same, away, kept, found,
        closed, unlined, unnotified, left, Notify.enlist, Notify.takePermit, Notify.remove, SharedQueue.take]

/-- The wake-ups that get lost in a run. -/
def lostIn (state : NotifiedQueue κ ω) : List (Act κ ω) → Nat
  | [] => 0
  | act :: rest => (state.loses act).toNat + (state.perform act).lostIn rest

theorem Orderly.perform (orderly : state.Orderly lost) (act : Act κ ω) :
    (state.perform act).Orderly (lost + (state.loses act).toNat) := by
  cases act with
  | queue act =>
    cases act with
    | take worker => exact orderly.look worker
    | close =>
      exact orderly.of_fewer (.refl _) (.refl _) rfl (fun _ _ => rfl) orderly.once orderly.back
        (.inr (Nat.le_refl _)) (fun _ broadcasts => absurd broadcasts (Nat.succ_ne_zero _))
    | _ =>
      exact orderly.serve (state.shared.length_waiting_perform _) (state.shared.closed_perform (by simp))
  | stray key =>
    have more : (state.shared.queue.done key).1.waiting.length =
        state.shared.queue.waiting.length + (state.shared.queue.done key).2.toNat := by
      rw [WorkQueue.waiting_done, List.length_append]
      cases (state.shared.queue.done key).2 <;> rfl
    exact orderly.serve (Nat.le_of_eq more) (WorkQueue.closed_done state.shared.queue key)
  | enter worker => exact orderly.enter worker
  | wake worker => exact orderly.wake worker
  | drop worker => exact orderly.drop worker
  | notifyOne => exact orderly.notifyOne
  | notifyWaiters => exact orderly.notifyWaiters

theorem Orderly.after (orderly : state.Orderly lost) (acts : List (Act κ ω)) :
    (state.after acts).Orderly (lost + state.lostIn acts) := by
  induction acts generalizing state lost with
  | nil => exact orderly
  | cons act rest ih =>
    rw [NotifiedQueue.lostIn, ← Nat.add_assoc]
    exact ih (orderly.perform act)

theorem Orderly.reached (acts : List (Act κ ω)) :
    (NotifiedQueue.reached acts).Orderly ((NotifiedQueue.start : NotifiedQueue κ ω).lostIn acts) := by
  rw [← Nat.zero_add (NotifiedQueue.lostIn _ acts)]
  exact Orderly.start.after acts

/-! ### When all tasks wait -/

/-- Whether nobody has anything to do: no notification is due, and whoever is inside waits in line. -/
structure Resting (state : NotifiedQueue κ ω) : Prop where
  notifies : state.notifies = 0
  broadcasts : state.broadcasts = 0
  looking : ∀ worker, state.place worker ≠ .looking
  line : ∀ worker, state.place worker = .waiting → worker ∈ state.notify.waiters

/-- When nobody has anything to do, no worker waits while there are more keys than wake-ups were lost. In particular
none waits while there is a key, unless a worker was dropped between coming back and looking again. None waits at all
once the queue is closed, wherever workers were dropped. -/
theorem no_worker_stuck (acts : List (Act κ ω)) (resting : (reached acts).Resting)
    (due : (start : NotifiedQueue κ ω).lostIn acts < (reached acts).shared.queue.waiting.length ∨
      (reached acts).shared.queue.closed = true) (worker : ω) :
    (reached acts).place worker = .away ∨ (reached acts).place worker = .gone := by
  have orderly := Orderly.reached acts
  generalize (start : NotifiedQueue κ ω).lostIn acts = lost at due orderly
  generalize reached acts = state at resting due orderly ⊢
  have idle : state.woken = [] := List.eq_nil_iff_forall_not_mem.2 (fun other =>
    orderly.idle_of_ne (resting.looking other))
  have free : ¬ state.Blocked worker := by
    intro blocked
    rcases due with keys | closed
    · -- A worker that was notified does not stand in line, so nobody is notified either.
      have unnotified : state.notified = [] := by
        apply List.eq_nil_iff_forall_not_mem.2
        intro other notified
        have inside := orderly.inside other (List.mem_append_right _ notified)
        have line := resting.line other (inside.resolve_left (resting.looking other))
        exact (List.nodup_append.1 orderly.line).2.2 other line other notified rfl
      have enough := orderly.enough worker blocked
      rw [wakeups, resting.notifies, unnotified, idle] at enough
      simp only [List.length_nil] at enough
      omega
    · exact orderly.released closed resting.broadcasts worker blocked
  cases place : state.place worker with
  | away => exact .inl rfl
  | gone => exact .inr rfl
  | looking => exact absurd place (resting.looking worker)
  | waiting => exact absurd ⟨place, resting.line worker place⟩ free

/-- Of two workers that wait, one is notified and dropped. The other gets the key and comes no more when the next key is
added, for which nobody waits. -/
def relieved : List (Act Nat Bool) :=
  [.enter true, .queue (.take true), .enter false, .queue (.take false), .queue (.add 7), .notifyOne, .drop true,
    .wake false, .queue (.take false), .queue (.add 8), .notifyOne]

/-- A worker takes that key, another waits until the queue is closed. -/
def released : List (Act Nat Bool) :=
  relieved ++ [.enter true, .queue (.take true), .enter false, .queue (.take false), .queue .close, .notifyWaiters,
    .wake false, .queue (.take false)]

theorem no_worker_stuck_relieved :
    (reached relieved).Resting ∧ (reached relieved).shared.queue.waiting = [8] ∧
      (∀ worker, (reached relieved).place worker = .away ∨ (reached relieved).place worker = .gone) ∧
      (reached released).Resting ∧ (reached released).shared.queue.closed = true ∧
      ∀ worker, (reached released).place worker = .away ∨ (reached released).place worker = .gone := by
  have resting : (reached relieved).Resting := ⟨by decide, by decide, by decide, by decide⟩
  have keys : (start : NotifiedQueue Nat Bool).lostIn relieved < (reached relieved).shared.queue.waiting.length := by
    decide
  have still : (reached released).Resting := ⟨by decide, by decide, by decide, by decide⟩
  have closed : (reached released).shared.queue.closed = true := by decide
  exact ⟨resting, by decide, no_worker_stuck relieved resting (.inl keys), still, closed,
    no_worker_stuck released still (.inr closed)⟩

/-- Of two workers that wait, the one that is notified comes back, gets in line again behind the other one and is
dropped before it has looked. -/
def overtaken : List (Act Nat Bool) :=
  [.enter true, .queue (.take true), .enter false, .queue (.take false), .queue (.add 7), .notifyOne, .wake true,
    .drop true]

/-- The key waits, and the other worker waits for it in vain. -/
theorem waits_beside_key :
    (reached overtaken).Resting ∧ (reached overtaken).shared.queue.waiting = [7] ∧
      (reached overtaken).shared.queue.closed = false ∧ (reached overtaken).place false = .waiting ∧
      ¬ ∀ acts : List (Act Nat Bool), (reached acts).Resting → (reached acts).shared.queue.waiting ≠ [] →
        ∀ worker, (reached acts).place worker ≠ .waiting := by
  have resting : (reached overtaken).Resting := ⟨by decide, by decide, by decide, by decide⟩
  have keys : (reached overtaken).shared.queue.waiting = [7] := by decide
  have waits : (reached overtaken).place false = .waiting := by decide
  refine ⟨resting, keys, by decide, waits, ?_⟩
  intro always
  exact always overtaken resting (by simp [keys]) false waits

end NotifiedQueue

end VipKeeper
