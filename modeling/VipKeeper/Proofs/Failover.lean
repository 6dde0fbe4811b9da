import VipKeeper.Failover
import VipKeeper.Proofs.Router.Turns

/-! A failover from the reports to the neighbor table.

Whatever owns the addresses and whatever keeps the table answers as it likes, after all that went before; what is asked
and what is answered is written to a log. -/

namespace VipKeeper.Failover

open Neighbor (Entry Tally Table invalidate removeAll)

/-- What the handler asks, with the answer. -/
inductive Act where
  | look (owned : List Address)
  | read (found : Except Mishap (List Entry))
  | remove (entry : Entry) (done : Except Mishap Unit)

/-- How a list of owned addresses and a neighbor table answer. -/
structure World where
  owned : List Act → List Address
  entries : List Act → Except Mishap (List Entry)
  removal : List Act → Entry → Except Mishap Unit

namespace World

/-- A panic breaks off what is being done. -/
def settled {α : Type} : Except Mishap α → Except String (Except Fault α)
  | .ok value => .ok (.ok value)
  | .error (.fault fault) => .ok (.error fault)
  | .error (.panic words) => .error words

def table (world : World) : Table (ExceptT String (StateM (List Act))) where
  entries := ExceptT.mk (fun past => (settled (world.entries past), past ++ [.read (world.entries past)]))
  remove entry := ExceptT.mk (fun past =>
    (settled (world.removal past entry), past ++ [.remove entry (world.removal past entry)]))

/-- How a pass over the table ends. -/
def concluded : Except String (Except Fault Tally) → Except Mishap Tally
  | .ok (.ok tally) => .ok tally
  | .ok (.error fault) => .error (.fault fault)
  | .error words => .error (.panic words)

/-- A pass over the table, for the addresses that are owned when it begins. -/
def invalidation (world : World) : StateM (List Act) (Except Mishap Tally) := do
  let past ← get
  let owned := world.owned past
  set (past ++ [.look owned])
  return concluded (← (invalidate world.table owned).run)

/-- An act after what went before. -/
def Answers (world : World) (past : List Act) : Act → Prop
  | .look owned => owned = world.owned past
  | .read found => found = world.entries past
  | .remove entry done => done = world.removal past entry

def Explains (world : World) (log : List Act) : Prop :=
  ∀ before act after, log = before ++ act :: after → world.Answers before act

variable {world : World} {past : List Act}

theorem Explains.nil (world : World) : world.Explains [] := by
  intro before act after same
  simp at same

theorem Explains.concat (explains : world.Explains past) {act : Act} (answers : world.Answers past act) :
    world.Explains (past ++ [act]) := by
  intro before other after same
  rcases List.eq_nil_or_concat after with rfl | ⟨rest, last, rfl⟩
  · obtain ⟨rfl, rfl⟩ := List.append_inj' same rfl |>.imp id List.singleton_inj.1
    exact answers
  · have split : past ++ [act] = (before ++ other :: rest) ++ [last] := by simpa using same
    exact explains before other rest (List.append_inj' split rfl).1

end World

/-- What is done for a new master: the addresses that it owns, what the table was found to hold if it was read, and the
removals that were tried. -/
structure Sweep where
  owned : List Address
  found : Option (Except Mishap (List Entry))
  tried : List (Entry × Except Mishap Unit)

namespace Sweep

def removals (tried : List (Entry × Except Mishap Unit)) : List Act :=
  tried.map (fun attempt => .remove attempt.1 attempt.2)

def atTable (sweep : Sweep) : List Act :=
  sweep.found.toList.map .read ++ removals sweep.tried

def acts (sweep : Sweep) : List Act :=
  .look sweep.owned :: sweep.atTable

/-- The entries for owned addresses, as far as the table could be read. -/
def due (sweep : Sweep) : List Entry :=
  match sweep.found with
  | some (.ok entries) => entries.filter (fun entry => decide (entry.address ∈ sweep.owned))
  | _ => []

/-- Removals that were tried in the order of the entries; only a panic leaves the rest of them. -/
def InOrder (tried : List (Entry × Except Mishap Unit)) (entries : List Entry) : Prop :=
  tried.map Prod.fst <+: entries ∧
    ((∀ attempt ∈ tried, ∀ words, attempt.2 ≠ .error (.panic words)) → tried.map Prod.fst = entries)

theorem InOrder.nil : InOrder [] [] :=
  ⟨List.nil_prefix, fun _ => rfl⟩

theorem InOrder.cons {tried : List (Entry × Except Mishap Unit)} {rest : List Entry} (order : InOrder tried rest)
    (entry : Entry) (done : Except Mishap Unit) : InOrder ((entry, done) :: tried) (entry :: rest) := by
  refine ⟨List.cons_prefix_cons.2 ⟨rfl, order.1⟩, fun unbroken => ?_⟩
  have all := order.2 (fun attempt inside => unbroken attempt (List.mem_cons_of_mem _ inside))
  rw [List.map_cons, all]

theorem InOrder.broken (entry : Entry) (words : String) (rest : List Entry) :
    InOrder [(entry, .error (.panic words))] (entry :: rest) :=
  ⟨List.cons_prefix_cons.2 ⟨rfl, List.nil_prefix⟩, fun unbroken => absurd rfl (unbroken _ List.mem_cons_self words)⟩

/-- The table is read exactly if something is owned, and only entries for what is owned are removed. -/
structure Proper (sweep : Sweep) : Prop where
  reads : sweep.found.isSome ↔ sweep.owned ≠ []
  removes : InOrder sweep.tried sweep.due

/-- Nothing is removed that was not owned when the pass began. -/
theorem Proper.owns {sweep : Sweep} (proper : sweep.Proper) {attempt : Entry × Except Mishap Unit}
    (inside : attempt ∈ sweep.tried) : attempt.1.address ∈ sweep.owned := by
  have due : attempt.1 ∈ sweep.due := proper.removes.1.subset (List.mem_map_of_mem inside)
  unfold Sweep.due at due
  split at due
  next => simpa using (List.mem_filter.1 due).2
  next => cases due

end Sweep

/-- A log goes on with one pass over the table for each of a number of new masters. -/
def Swept (world : World) (past log : List Act) (masters : Nat) : Prop :=
  ∃ sweeps : List Sweep, log = past ++ sweeps.flatMap Sweep.acts ∧ world.Explains log ∧
    (∀ sweep ∈ sweeps, sweep.Proper) ∧ sweeps.length = masters

section

variable {world : World} {past : List Act}

theorem Swept.nothing (explains : world.Explains past) : Swept world past past 0 :=
  ⟨[], (List.append_nil past).symm, explains, by simp, rfl⟩

theorem Swept.once {sweep : Sweep} (explains : world.Explains (past ++ sweep.acts)) (proper : sweep.Proper) :
    Swept world past (past ++ sweep.acts) 1 := by
  refine ⟨[sweep], ?_, explains, by simpa using proper, rfl⟩
  rw [List.flatMap_singleton]

theorem Swept.trans {middle log : List Act} {few more : Nat} (first : Swept world past middle few)
    (second : Swept world middle log more) : Swept world past log (few + more) := by
  obtain ⟨sweeps, rfl, -, proper, rfl⟩ := first
  obtain ⟨later, rfl, told, proper', rfl⟩ := second
  refine ⟨sweeps ++ later, ?_, told, ?_, List.length_append⟩
  · rw [List.flatMap_append, List.append_assoc]
  · intro sweep inside
    exact (List.mem_append.1 inside).elim (proper sweep) (proper' sweep)

end

open Sweep (removals InOrder)

/-- After a removal that was broken off nothing is tried any more. -/
theorem run_removeAll_cons (world : World) (entry : Entry) (rest : List Entry) (tally : Tally) (past : List Act) :
    (removeAll world.table (entry :: rest) tally).run.run past =
      match world.removal past entry with
      | .ok () => (removeAll world.table rest (tally.count true)).run.run (past ++ [.remove entry (.ok ())])
      | .error (.fault fault) =>
        (removeAll world.table rest (tally.count false)).run.run (past ++ [.remove entry (.error (.fault fault))])
      | .error (.panic words) => (.error words, past ++ [.remove entry (.error (.panic words))]) := by
  have removed : (world.table.remove entry).run.run past =
    (World.settled (world.removal past entry), past ++ [.remove entry (world.removal past entry)]) := rfl
  simp only [removeAll, ExceptT.run_bind, StateT.run_bind, removed]
  match world.removal past entry with
  | .ok () => rfl
  | .error (.fault fault) => rfl
  | .error (.panic words) => rfl

theorem acts_removeAll {world : World} {past : List Act} (explains : world.Explains past) (entries : List Entry)
    (tally : Tally) :
    ∃ tried, ((removeAll world.table entries tally).run.run past).2 = past ++ removals tried ∧
      world.Explains (past ++ removals tried) ∧ InOrder tried entries := by
  induction entries generalizing tally past with
  | nil =>
    refine ⟨[], ?_, ?_, InOrder.nil⟩
    · exact (List.append_nil past).symm
    · exact (List.append_nil past).symm ▸ explains
  | cons entry rest ih =>
    -- Whatever is answered to one attempt, the log stays one of this world, and only a panic keeps the rest from being tried.
    have next (done : Except Mishap Unit) (same : done = world.removal past entry) :
        world.Explains (past ++ [.remove entry done]) := explains.concat same
    have further (done : Except Mishap Unit) (same : done = world.removal past entry) (tally : Tally) :
        ∃ tried, ((removeAll world.table rest tally).run.run (past ++ [.remove entry done])).2 =
            past ++ removals ((entry, done) :: tried) ∧
          world.Explains (past ++ removals ((entry, done) :: tried)) ∧
          InOrder ((entry, done) :: tried) (entry :: rest) := by
      obtain ⟨tried, log, told, order⟩ := ih (next done same) tally
      rw [List.append_assoc] at log told
      exact ⟨tried, log, told, order.cons entry done⟩
    rw [run_removeAll_cons]
    match same : world.removal past entry with
    | .ok () =>
      obtain ⟨tried, rest⟩ := further (.ok ()) same.symm (tally.count true)
      exact ⟨_, rest⟩
    | .error (.fault fault) =>
      obtain ⟨tried, rest⟩ := further (.error (.fault fault)) same.symm (tally.count false)
      exact ⟨_, rest⟩
    | .error (.panic words) =>
      exact ⟨[(entry, .error (.panic words))], rfl, next _ same.symm, InOrder.broken entry words rest⟩

/-- What is made of the result of a program changes nothing else. -/
theorem run_map {α β : Type} (program : ExceptT String (StateM (List Act)) α) (result : α → β) (past : List Act) :
    (do return result (← program) : ExceptT String (StateM (List Act)) β).run.run past =
      ((program.run.run past).1.map result, (program.run.run past).2) := by
  rw [ExceptT.run_bind, StateT.run_bind]
  cases ran : program.run.run past with
  | mk ended log => cases ended <;> rfl

theorem run_invalidate_cons (world : World) (address : Address) (rest : List Address) (past : List Act) :
    (invalidate world.table (address :: rest)).run.run past =
      match world.entries past with
      | .ok entries =>
        let swept := (removeAll world.table
          (entries.filter (fun entry => decide (entry.address ∈ address :: rest))) .zero).run.run
            (past ++ [.read (.ok entries)])
        (swept.1.map .ok, swept.2)
      | .error (.fault fault) => (.ok (.error fault), past ++ [.read (.error (.fault fault))])
      | .error (.panic words) => (.error words, past ++ [.read (.error (.panic words))]) := by
  have read : world.table.entries.run.run past =
    (World.settled (world.entries past), past ++ [.read (world.entries past)]) := rfl
  simp only [invalidate, List.isEmpty_cons, Bool.false_eq_true, if_false, ExceptT.run_bind, StateT.run_bind,
    read]
  match world.entries past with
  | .error (.fault fault) => rfl
  | .error (.panic words) => rfl
  | .ok entries => exact run_map _ _ _

theorem acts_invalidate {world : World} {past : List Act} (explains : world.Explains past) (owned : List Address) :
    ∃ sweep : Sweep, sweep.owned = owned ∧
      ((invalidate world.table owned).run.run past).2 = past ++ sweep.atTable ∧
      world.Explains (past ++ sweep.atTable) ∧ sweep.Proper := by
  cases owned with
  | nil =>
    refine ⟨⟨[], none, []⟩, rfl, ?_, ?_, ⟨by simp, InOrder.nil⟩⟩
    · exact (List.append_nil past).symm
    · exact (List.append_nil past).symm ▸ explains
  | cons address rest =>
    have next (found : Except Mishap (List Entry)) (same : found = world.entries past) :
        world.Explains (past ++ [.read found]) := explains.concat same
    have unread (mishap : Mishap) (same : world.entries past = .error mishap) :
        world.Explains (past ++ Sweep.atTable ⟨address :: rest, some (.error mishap), []⟩) ∧
          Sweep.Proper ⟨address :: rest, some (.error mishap), []⟩ :=
      ⟨next _ same.symm, ⟨by simp, InOrder.nil⟩⟩
    rw [run_invalidate_cons]
    match same : world.entries past with
    | .ok entries =>
      obtain ⟨tried, log, told, order⟩ := acts_removeAll (next (.ok entries) same.symm)
        (entries.filter (fun entry => decide (entry.address ∈ address :: rest))) Tally.zero
      rw [List.append_assoc] at log told
      exact ⟨⟨address :: rest, some (.ok entries), tried⟩, rfl, log, told, ⟨by simp, order⟩⟩
    | .error (.fault fault) =>
      exact ⟨⟨address :: rest, some (.error (.fault fault)), []⟩, rfl, rfl, unread _ same⟩
    | .error (.panic words) =>
      exact ⟨⟨address :: rest, some (.error (.panic words)), []⟩, rfl, rfl, unread _ same⟩

theorem acts_invalidation {world : World} {past : List Act} (explains : world.Explains past) :
    ∃ sweep : Sweep, (world.invalidation.run past).2 = past ++ sweep.acts ∧ world.Explains (past ++ sweep.acts) ∧
      sweep.Proper := by
  have next : world.Explains (past ++ [.look (world.owned past)]) := explains.concat rfl
  obtain ⟨sweep, same, log, told, proper⟩ := acts_invalidate next (world.owned past)
  have begun : past ++ [.look (world.owned past)] ++ sweep.atTable = past ++ sweep.acts := by
    rw [← same, List.append_assoc]
    rfl
  rw [begun] at log told
  exact ⟨sweep, log, told, proper⟩

/-- Only a new master asks anything, and one pass follows for it. -/
theorem swept_handle {world : World} {past : List Act} (explains : world.Explains past) (metrics : Metrics)
    (transition : Transition) :
    Swept world past ((handle world.invalidation metrics transition).run past).2
      ([transition].count .becameMaster) := by
  cases transition with
  | becameBackup => exact Swept.nothing explains
  | becameMaster =>
    obtain ⟨sweep, log, told, proper⟩ := acts_invalidation explains
    have same : ((handle world.invalidation metrics .becameMaster).run past).2 = past ++ sweep.acts := log
    rw [same]
    exact Swept.once told proper

/-- However a pass ends, the next transition is handled. -/
theorem swept_handleAll {world : World} {past : List Act} (explains : world.Explains past) (metrics : Metrics)
    (transitions : List Transition) :
    Swept world past ((handleAll world.invalidation metrics transitions).run past).2
      (transitions.count .becameMaster) := by
  induction transitions generalizing metrics past with
  | nil => exact Swept.nothing explains
  | cons transition rest ih =>
    -- One transition leaves nothing to the next but metrics, on which nothing that is asked depends.
    have first := swept_handle explains metrics transition
    obtain ⟨_, _, told, _⟩ := id first
    rw [← List.singleton_append, List.count_append]
    exact first.trans (ih told ((handle world.invalidation metrics transition).run past).1.1)

/-- The first of the transitions in a stream of reports are handled, as many as there is time for. For each new master
among them there is one pass: it looks at the addresses that are owned then, reads the table once if there are any, and
tries to remove entries of these addresses and no others. Nothing else is asked of the table, whatever fails. -/
theorem one_sweep_per_mastership (world : World) (metrics : Metrics) (tracker : Tracker) (stream : List UInt8)
    (count : Nat) :
    ∃ sweeps : List Sweep,
      ((handleAll world.invalidation metrics ((tracker.followStream true stream).2.1.take count)).run []).2 =
          sweeps.flatMap Sweep.acts ∧
        world.Explains (sweeps.flatMap Sweep.acts) ∧
        (∀ sweep ∈ sweeps, sweep.Proper ∧ ∀ attempt ∈ sweep.tried, attempt.1.address ∈ sweep.owned) ∧
        sweeps.length = ((tracker.role.turns ((Text.legible (Text.lines stream)).filterMap
          (Report.about? tracker.router))).take count).count .becameMaster := by
  obtain ⟨sweeps, log, told, proper, length⟩ :=
    swept_handleAll (World.Explains.nil world) metrics ((tracker.followStream true stream).2.1.take count)
  rw [List.nil_append] at log
  rw [Tracker.sent_followStream] at length
  refine ⟨sweeps, log, log ▸ told, fun sweep inside => ?_, length⟩
  exact ⟨proper sweep inside, fun _ => (proper sweep inside).owns⟩

end VipKeeper.Failover
