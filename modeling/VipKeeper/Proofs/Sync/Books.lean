import VipKeeper.Proofs.Failover
import VipKeeper.Proofs.Metrics
import VipKeeper.Proofs.Sync.Shift

/-! What is counted over a run, and what was done.

Passes begin and end and changes of role are handled in any order, with whatever else happens to the queue between them.
What the passes ask of the daemon and what the changes ask of the neighbor table is written down beside the counts. -/

namespace VipKeeper

/-! ### The neighbor table -/

namespace Failover

/-- A removal that succeeded. -/
def Act.removes : Act → Bool
  | .remove _ (.ok ()) => true
  | _ => false

/-- A removal that panicked. What else was to be removed is left, and nothing is reported. -/
def Act.breaks : Act → Bool
  | .remove _ (.error (.panic _)) => true
  | _ => false

/-- The number of entries that were removed. -/
def removedIn (log : List Act) : Nat :=
  log.countP Act.removes

theorem removedIn_append (log later : List Act) : removedIn (log ++ later) = removedIn log + removedIn later :=
  List.countP_append

/-- What a neighbor table answers when these addresses are owned. -/
def World.owning (world : World) (owned : List Address) : World :=
  { world with owned := fun _ => owned }

/-- How removals end: all were tried, and those that succeeded are in the tally, or the last one panicked. -/
inductive Tried (tally : Neighbor.Tally) : Except String Neighbor.Tally → List Act → Prop where
  | all (ended : Neighbor.Tally) (asked : List Act) (calm : asked.any Act.breaks = false)
      (removed : ended.removed = tally.removed + removedIn asked) : Tried tally (.ok ended) asked
  | broken (words : String) (asked : List Act) (broken : asked.any Act.breaks = true) : Tried tally (.error words) asked

theorem Tried.cons {tally next : Neighbor.Tally} {ended : Except String Neighbor.Tally} {asked : List Act}
    (tried : Tried next ended asked) {act : Act} (calm : act.breaks = false)
    (counted : next.removed = tally.removed + removedIn [act]) : Tried tally ended (act :: asked) := by
  cases tried with
  | all ended asked rest removed =>
    have told : removedIn (act :: asked) = removedIn [act] + removedIn asked := removedIn_append [act] asked
    exact .all ended _ (by simp [calm, rest]) (by omega)
  | broken words asked broken => exact .broken words _ (by simp [broken])

theorem tried_removeAll (world : World) (entries : List Neighbor.Entry) (tally : Neighbor.Tally) (past : List Act) :
    ∃ ended asked, (Neighbor.removeAll world.table entries tally).run.run past = (ended, past ++ asked) ∧
      Tried tally ended asked := by
  induction entries generalizing tally past with
  | nil => exact ⟨.ok tally, [], congrArg (Prod.mk _) (List.append_nil past).symm, .all tally [] rfl rfl⟩
  | cons entry rest ih =>
    rw [run_removeAll_cons]
    match world.removal past entry with
    | .ok () =>
      obtain ⟨ended, asked, ran, tried⟩ := ih (tally.count true) (past ++ [.remove entry (.ok ())])
      exact ⟨ended, .remove entry (.ok ()) :: asked, by simpa using ran, tried.cons rfl rfl⟩
    | .error (.fault fault) =>
      obtain ⟨ended, asked, ran, tried⟩ := ih (tally.count false) (past ++ [.remove entry (.error (.fault fault))])
      exact ⟨ended, .remove entry (.error (.fault fault)) :: asked, by simpa using ran, tried.cons rfl rfl⟩
    | .error (.panic words) =>
      exact ⟨.error words, [.remove entry (.error (.panic words))], rfl, .broken words _ rfl⟩

/-- What a pass over the table reports: the entries that were removed, or nothing if a removal panicked. -/
def accounted (asked : List Act) : Nat :=
  if asked.any Act.breaks then 0 else removedIn asked

theorem accounted_invalidation (world : World) (metrics : Metrics) (past : List Act) :
    ∃ asked, (world.invalidation.run past).2 = past ++ asked ∧
      reported (conclude metrics (world.invalidation.run past).1).2 = accounted asked := by
  have ran : world.invalidation.run past =
      let swept := (Neighbor.invalidate world.table (world.owned past)).run.run (past ++ [.look (world.owned past)])
      (World.concluded swept.1, swept.2) := rfl
  rw [ran]
  match world.owned past with
  | [] => exact ⟨[.look []], rfl, rfl⟩
  | address :: rest =>
    rw [run_invalidate_cons]
    generalize world.entries (past ++ [.look (address :: rest)]) = found
    match found with
    | .error (.fault fault) => exact ⟨[.look (address :: rest), .read (.error (.fault fault))], by simp, rfl⟩
    | .error (.panic words) => exact ⟨[.look (address :: rest), .read (.error (.panic words))], by simp, rfl⟩
    | .ok entries =>
      -- Before the removals there are a look at the addresses and a read of the table, which remove nothing.
      have begun (asked : List Act) : past ++ [.look (address :: rest)] ++ [.read (.ok entries)] ++ asked =
          past ++ .look (address :: rest) :: .read (.ok entries) :: asked := by simp
      have unremoved (asked : List Act) :
          accounted (.look (address :: rest) :: .read (.ok entries) :: asked) = accounted asked := rfl
      obtain ⟨ended, asked, swept, tried⟩ := tried_removeAll world
        (entries.filter (fun entry => decide (entry.address ∈ address :: rest))) .zero
        (past ++ [.look (address :: rest)] ++ [.read (.ok entries)])
      dsimp only
      rw [swept]
      refine ⟨_, begun asked, ?_⟩
      rw [unremoved]
      cases tried with
      | all ended asked calm removed =>
        have none : Neighbor.Tally.zero.removed = 0 := rfl
        have told : accounted asked = removedIn asked := if_neg (Bool.eq_false_iff.1 calm)
        have reports : ended.removed = accounted asked := by omega
        exact reports
      | broken words asked broken => exact (if_pos broken).symm

theorem accounted_handle (world : World) (metrics : Metrics) (transition : Transition) (past : List Act) :
    ∃ asked, ((handle world.invalidation metrics transition).run past).2 = past ++ asked ∧
      reported ((handle world.invalidation metrics transition).run past).1.2 = accounted asked := by
  cases transition with
  | becameBackup => exact ⟨[], (List.append_nil past).symm, rfl⟩
  | becameMaster => exact accounted_invalidation world (metrics.countTransition Transition.becameMaster.name) past

end Failover

namespace Sync

/-! ### Runs -/

/-- A change of role that was handled, and what was asked of the neighbor table then. -/
structure Handled where
  transition : Transition
  asked : List Failover.Act

/-- A removal panicked. -/
def Handled.isBroken (handled : Handled) : Bool :=
  handled.asked.any Failover.Act.breaks

/-- A shift beside a neighbor table. The passes have made these calls, and these changes of role were handled. -/
structure Books (ω : Type) where
  shift : Shift ω
  record : Record
  calls : List Call
  handled : List Handled

/-- An act that ends a pass. -/
def Shift.Act.ends {ω : Type} : Act ω → Bool
  | .conclude _ _ _ => true
  | _ => false

namespace Books

/-- A pass ends as its calls do. Whatever else can happen on a shift can happen in between. -/
inductive Act (ω : Type) where
  | pass (worker : ω) (span : Span) (now : Circumstances)
  | turn (transition : Transition)
  | beside (act : Shift.Act ω)

variable {ω : Type}

def start (target : ObjectKey) : Books ω :=
  ⟨.start target, .empty, [], []⟩

def metrics (books : Books ω) : Metrics :=
  books.shift.controller.metrics

/-- The number of passes that have ended. -/
def finished (books : Books ω) : Nat :=
  books.shift.log.length

/-- How often the daemon has read its configuration. -/
def reloads (books : Books ω) : Nat :=
  books.calls.count (.reload (.ok ()))

/-- All that was asked of the neighbor table. -/
def asked (books : Books ω) : List Failover.Act :=
  books.handled.flatMap Handled.asked

/-- What was asked of it without a panic in a removal. -/
def completed (books : Books ω) : List Failover.Act :=
  (books.handled.filter (fun handled => !handled.isBroken)).flatMap Handled.asked

/-- What was asked of it up to such a panic. -/
def brokenOff (books : Books ω) : List Failover.Act :=
  (books.handled.filter Handled.isBroken).flatMap Handled.asked

/-- The addresses are those of the last configuration that was installed. -/
def turn (world : Failover.World) (books : Books ω) (transition : Transition) : Books ω :=
  let invalidation := (world.owning books.record.owned).invalidation
  let ended := (Failover.handle invalidation books.metrics transition).run books.asked
  { books with
    shift := { books.shift with controller := { books.shift.controller with metrics := ended.1.1 } }
    handled := books.handled ++ [⟨transition, ended.2.drop books.asked.length⟩] }

variable [DecidableEq ω]

def pass (site : Site) (backoff : Backoff) (books : Books ω) (worker : ω) (span : Span) (now : Circumstances) :
    Books ω :=
  match books.shift.duties worker with
  | .passing key =>
    let ended := now.passage site key books.record
    let reloaded := { books.shift with controller := books.shift.controller.countReload ended.result }
    { books with
      shift := reloaded.conclude backoff worker span ended.result
      record := ended.record
      calls := books.calls ++ ended.calls }
  | _ => books

def perform (world : Failover.World) (site : Site) (backoff : Backoff) (books : Books ω) : Act ω → Books ω
  | .pass worker span now => books.pass site backoff worker span now
  | .turn transition => books.turn world transition
  | .beside act => if act.ends then books else { books with shift := books.shift.perform backoff act }

def reached (world : Failover.World) (site : Site) (backoff : Backoff) (target : ObjectKey) (acts : List (Act ω)) :
    Books ω :=
  acts.foldl (perform world site backoff) (start target)

/-! ### One act -/

omit [DecidableEq ω] in
theorem metrics_handle (controller : Controller) (event : Event) :
    ∃ depth, (controller.handle event).1.metrics = controller.metrics.withDepth depth := by
  cases event with
  | membership => exact ⟨_, rfl⟩
  | balancer change =>
    rw [Controller.handle_balancer]
    split
    · exact ⟨_, rfl⟩
    · exact ⟨controller.metrics.depth, rfl⟩

theorem metrics_conclude (backoff : Backoff) {shift : Shift ω} {worker : ω} {key : ObjectKey}
    (now : shift.duties worker = .passing key) (span : Span) (result : Except Failure Outcome) :
    (shift.conclude backoff worker span result).controller.metrics = (shift.controller.count span result).metrics ∧
      (shift.conclude backoff worker span result).log.length = shift.log.length + 1 := by
  simp only [Shift.conclude, now]
  exact ⟨shift.controller.metrics_tally backoff key span result, rfl⟩

/-- As long as no pass ends, nothing is counted but the depth. -/
theorem metrics_perform (backoff : Backoff) (shift : Shift ω) {act : Shift.Act ω} (goes : act.ends = false) :
    (∃ depth, (shift.perform backoff act).controller.metrics = shift.controller.metrics.withDepth depth) ∧
      (shift.perform backoff act).log = shift.log := by
  have comes := Shift.performed backoff shift act
  generalize shift.perform backoff act = next at comes
  cases comes with
  | heard event => exact ⟨metrics_handle shift.controller event, rfl⟩
  | took worker key queue idle found => exact ⟨⟨_, rfl⟩, rfl⟩
  | concluded worker key span result now => cases goes
  | scheduled worker key wait now =>
    refine ⟨⟨shift.controller.metrics.depth, ?_⟩, rfl⟩
    rcases shift.controller.deferred key wait with same | same <;> exact congrArg (·.1.metrics) same
  | nothing | added | released | rang | closed => exact ⟨⟨shift.controller.metrics.depth, rfl⟩, rfl⟩

/-- The counts agree with what was done. -/
def Kept (books : Books ω) : Prop :=
  books.metrics.Balanced books.finished books.reloads books.handled.length (Failover.removedIn books.completed)

theorem Kept.pass {books : Books ω} (kept : books.Kept) (site : Site) (backoff : Backoff) (worker : ω) (span : Span)
    (now : Circumstances) : (books.pass site backoff worker span now).Kept := by
  unfold Books.pass
  split
  next key duty =>
    have exit := now.exit_passage site key books.record
    generalize now.passage site key books.record = ended at exit
    have passing : Shift.duties { books.shift with controller := books.shift.controller.countReload ended.result }
        worker = .passing key := duty
    obtain ⟨counted, logged⟩ := metrics_conclude backoff passing span ended.result
    have balanced := Metrics.Balanced.count kept span ended.result
    -- The reloads that are counted for a result are those among the calls of the pass.
    rw [← exit.reloads_eq, ← counted] at balanced
    unfold Kept finished reloads
    dsimp only
    rw [logged, List.count_append]
    exact balanced
  next => exact kept

omit [DecidableEq ω] in
/-- What one change of role asks comes last, and what it counts is what it reports. -/
theorem handled_turn (world : Failover.World) (books : Books ω) (transition : Transition) :
    ∃ asked, (books.turn world transition).handled = books.handled ++ [⟨transition, asked⟩] ∧
      Failover.reported ((Failover.handle (world.owning books.record.owned).invalidation books.metrics transition).run
        books.asked).1.2 = Failover.accounted asked := by
  obtain ⟨asked, log, told⟩ :=
    Failover.accounted_handle (world.owning books.record.owned) books.metrics transition books.asked
  have last : ((Failover.handle (world.owning books.record.owned).invalidation books.metrics transition).run
      books.asked).2.drop books.asked.length = asked := by
    rw [log, List.drop_left]
  exact ⟨asked, by rw [← last]; rfl, told⟩

omit [DecidableEq ω] in
theorem removed_completed {books next : Books ω} {handled : Handled}
    (same : next.handled = books.handled ++ [handled]) :
    Failover.removedIn next.completed = Failover.removedIn books.completed + Failover.accounted handled.asked := by
  unfold completed
  rw [same, List.filter_append, List.flatMap_append, Failover.removedIn_append]
  cases broken : handled.isBroken with
  | true =>
    have none : Failover.accounted handled.asked = 0 := if_pos broken
    simp [broken, none, Failover.removedIn]
  | false =>
    have all : Failover.accounted handled.asked = Failover.removedIn handled.asked :=
      if_neg (Bool.eq_false_iff.1 broken)
    simp [broken, all]

omit [DecidableEq ω] in
theorem Kept.turn {books : Books ω} (kept : books.Kept) (world : Failover.World) (transition : Transition) :
    (books.turn world transition).Kept := by
  obtain ⟨asked, same, told⟩ := books.handled_turn world transition
  unfold Kept
  rw [removed_completed same, same, List.length_append, ← told]
  cases transition with
  | becameBackup => exact Metrics.Balanced.countTransition kept _
  | becameMaster => exact (Metrics.Balanced.countTransition kept _).conclude _

theorem kept_perform {books : Books ω} (kept : books.Kept) (world : Failover.World) (site : Site) (backoff : Backoff)
    (act : Act ω) : (books.perform world site backoff act).Kept := by
  cases act with
  | pass worker span now => exact kept.pass site backoff worker span now
  | turn transition => exact kept.turn world transition
  | beside act =>
    unfold perform
    dsimp only
    split
    next => exact kept
    next goes =>
      obtain ⟨⟨depth, counted⟩, log⟩ := metrics_perform backoff books.shift (Bool.eq_false_iff.2 goes)
      unfold Kept metrics finished
      rw [counted, log]
      exact Metrics.Balanced.withDepth kept depth

theorem kept_reached (world : Failover.World) (site : Site) (backoff : Backoff) (target : ObjectKey)
    (acts : List (Act ω)) : (reached world site backoff target acts).Kept :=
  List.foldlRecOn acts _ Metrics.balanced_zero (fun _ kept act _ => kept_perform kept world site backoff act)

/-! ### The balance -/

omit [DecidableEq ω] in
/-- Whatever was removed was removed before a panic or without one. -/
theorem removed_completed_add_brokenOff (books : Books ω) :
    Failover.removedIn books.completed + Failover.removedIn books.brokenOff = Failover.removedIn books.asked := by
  unfold completed brokenOff asked
  induction books.handled with
  | nil => rfl
  | cons handled rest ih =>
    rw [List.flatMap_cons, Failover.removedIn_append, ← ih]
    cases broken : handled.isBroken <;>
      simp only [List.filter_cons, broken, Bool.not_true, Bool.not_false, Bool.false_eq_true, if_true, if_false,
        List.flatMap_cons, Failover.removedIn_append] <;>
      omega

omit [DecidableEq ω] in
theorem removed_brokenOff_eq_zero (books : Books ω) :
    Failover.removedIn books.brokenOff = 0 ↔
      ∀ handled ∈ books.handled, handled.isBroken = true → Failover.removedIn handled.asked = 0 := by
  simp only [Failover.removedIn, List.countP_eq_zero, brokenOff, List.mem_flatMap, List.mem_filter]
  constructor
  · intro none handled inside broken act asked
    exact none act ⟨handled, ⟨inside, broken⟩, asked⟩
  · intro none act ⟨handled, ⟨inside, broken⟩, asked⟩
    exact none handled inside broken act asked

/-- Over every run the passes that were counted, by their outcomes and by their durations, are those that have ended,
the failed ones among them are the errors of passes, and the installed ones are the reloads of the daemon. The changes
of role that were counted are those that were handled. The invalidations are the entries that were removed where no
removal panicked; of what is removed before a panic nothing is counted. So they are all that were removed exactly if
nothing was removed before a removal that panicked. -/
theorem counters_balance_iff (world : Failover.World) (site : Site) (backoff : Backoff) (target : ObjectKey)
    (acts : List (Act ω)) :
    let books := reached world site backoff target acts
    books.metrics.Balanced books.finished books.reloads books.handled.length
        (Failover.removedIn books.completed) ∧
      books.metrics.invalidations + Failover.removedIn books.brokenOff = Failover.removedIn books.asked ∧
      (books.metrics.invalidations = Failover.removedIn books.asked ↔
        ∀ handled ∈ books.handled, handled.isBroken = true → Failover.removedIn handled.asked = 0) := by
  intro books
  have balanced : books.Kept := kept_reached world site backoff target acts
  have counted : books.metrics.invalidations = Failover.removedIn books.completed := balanced.invalidations
  have whole := books.removed_completed_add_brokenOff
  refine ⟨balanced, by omega, ?_⟩
  rw [← books.removed_brokenOff_eq_zero]
  omega

/-- A table with one entry, of which every removal succeeds. -/
def oneEntry : Failover.World :=
  ⟨fun _ => [], fun _ => .ok [⟨.v4 10 0 0 5, .zero, .complete, "eth0"⟩], fun _ _ => .ok ()⟩

/-- A configuration is installed, this node becomes a master, and the next configuration is installed but not read. -/
def eventful : List (Act Unit) :=
  [.beside (.hear .membership), .beside (.take ()), .pass () .zero (Reconciler.fetching 100 (.ok ())),
    .beside (.release ()), .turn .becameMaster, .beside (.hear .membership), .beside (.take ()),
    .pass () .zero (Reconciler.fetching 101 (.error (.fault (.other "no process")))), .beside (.release ())]

theorem counters_balance_eventful :
    let books := reached oneEntry ⟨none, none⟩ .default ⟨"kube-system", "lb"⟩ eventful
    books.metrics.Balanced 2 1 1 1 ∧ books.metrics.invalidations = Failover.removedIn books.asked := by
  intro books
  have finished : books.finished = 2 := by decide +kernel
  have reloads : books.reloads = 1 := by decide +kernel
  have turned : books.handled.length = 1 := by decide +kernel
  have removed : Failover.removedIn books.completed = 1 := by decide +kernel
  have whole : ∀ handled ∈ books.handled, handled.isBroken = true → Failover.removedIn handled.asked = 0 := by
    decide +kernel
  obtain ⟨balanced, -, told⟩ := counters_balance_iff oneEntry ⟨none, none⟩ .default ⟨"kube-system", "lb"⟩ eventful
  exact ⟨by rwa [finished, reloads, turned, removed] at balanced, told.2 whole⟩

/-- A table with two entries for one address, of which the first can be removed and the removal of the second panics. -/
def unremovable : Failover.World :=
  ⟨fun _ => [], fun _ => .ok [⟨.v4 10 0 0 5, .zero, .complete, "eth0"⟩, ⟨.v4 10 0 0 5, .zero, .complete, "eth1"⟩],
    fun _ entry => if entry.device = "eth0" then .ok () else .error (.panic "no such device")⟩

/-- A configuration is installed, and this node becomes a master. -/
def taken : List (Act Unit) :=
  [.beside (.hear .membership), .beside (.take ()), .pass () .zero (Reconciler.fetching 100 (.ok ())),
    .beside (.release ()), .turn .becameMaster]

/-- The entry that was removed before the panic is not counted. -/
theorem removed_uncounted :
    let books := reached unremovable ⟨none, none⟩ .default ⟨"kube-system", "lb"⟩ taken
    Failover.removedIn books.asked = 1 ∧ books.metrics.invalidations = 0 := by
  decide +kernel

end Books

end Sync

end VipKeeper
