import VipKeeper.Neighbor.Invalidation
import Mathlib.Data.List.Basic

/-! What a pass over a neighbor table asks of it, what it reports and what it leaves there.

The table holds a list of entries. Whether it can be read and whether a removal succeeds may depend on all that was
asked before; what is asked is written to a log, with the answer. -/

namespace VipKeeper.Neighbor

/-- An attempt to remove an entry, and why it failed if it did. -/
structure Attempt where
  entry : Entry
  fault : Option Fault

/-- What is asked of a table, with the answer. -/
inductive Call where
  | read (found : Except Fault (List Entry))
  | remove (attempt : Attempt)

/-- A table with what it was asked so far. -/
structure Desk where
  entries : List Entry
  log : List Call

namespace Desk

def heard (desk : Desk) (call : Call) : Desk :=
  { desk with log := desk.log ++ [call] }

end Desk

/-- What a table gives up when an entry is removed: that entry, and with it only entries for the same address. -/
structure Reach where
  takes : Entry → Entry → Bool
  takes_self : ∀ entry, takes entry entry = true
  address_eq : ∀ removed other, takes removed other = true → other.address = removed.address

namespace Reach

/-- The kernel knows an entry by its address and its device. -/
def kernel : Reach where
  takes removed other := decide (other.address = removed.address ∧ other.device = removed.device)
  takes_self entry := by simp
  address_eq removed other taken := (of_decide_eq_true taken).1

end Reach

/-- Why reading fails, if it does, and why a removal fails, if it does. -/
structure Answers where
  reading : List Call → Option Fault
  removal : List Call → Entry → Option Fault

namespace Attempt

/-- A removal that fails changes nothing. -/
def spares (reach : Reach) (attempt : Attempt) (other : Entry) : Bool :=
  attempt.fault.isSome || !reach.takes attempt.entry other

def answer (attempt : Attempt) : Except Fault Unit :=
  match attempt.fault with
  | none => .ok ()
  | some fault => .error fault

end Attempt

namespace Answers

def found (answers : Answers) (desk : Desk) : Except Fault (List Entry) :=
  match answers.reading desk.log with
  | none => .ok desk.entries
  | some fault => .error fault

def table (answers : Answers) (reach : Reach) : Table (StateM Desk) where
  entries := fun desk => (answers.found desk, desk.heard (.read (answers.found desk)))
  remove entry := fun desk =>
    let attempt : Attempt := ⟨entry, answers.removal desk.log entry⟩
    (attempt.answer, ⟨desk.entries.filter (attempt.spares reach), desk.log ++ [.remove attempt]⟩)

/-- Attempts one after the other, each answered after all that was asked before it. -/
inductive Told (answers : Answers) : List Call → List Attempt → Prop
  | nil (past : List Call) : Told answers past []
  | cons {past : List Call} (entry : Entry) {rest : List Attempt}
      (later : Told answers (past ++ [.remove ⟨entry, answers.removal past entry⟩]) rest) :
      Told answers past (⟨entry, answers.removal past entry⟩ :: rest)

end Answers

/-- The tally after further attempts. -/
def Tally.after (tally : Tally) (tried : List Attempt) : Tally where
  matched := tally.matched + tried.length
  removed := tally.removed + tried.countP (fun attempt => attempt.fault.isNone)
  failed := tally.failed + tried.countP (fun attempt => attempt.fault.isSome)

/-- An entry is for one of the addresses. -/
def Entry.isFor (owned : List Address) (entry : Entry) : Bool :=
  decide (entry.address ∈ owned)

/-- A pass that could read the table. -/
structure Swept (reach : Reach) (answers : Answers) (owned : List Address) (start : Desk) (tried : List Attempt)
    (tally : Tally) (finish : Desk) : Prop where
  reads : answers.reading start.log = none
  /-- All entries for owned addresses are tried, in the order of the table, and no others. -/
  tries : tried.map Attempt.entry = start.entries.filter (Entry.isFor owned)
  told : answers.Told (start.log ++ [.read (.ok start.entries)]) tried
  /-- One reading and these attempts are all that is asked. -/
  asks : finish.log = start.log ++ .read (.ok start.entries) :: tried.map .remove
  matched : tally.matched = (start.entries.filter (Entry.isFor owned)).length
  balanced : tally.matched = tally.removed + tally.failed
  failed : tally.failed = tried.countP (fun attempt => attempt.fault.isSome)
  /-- What no successful removal takes stays. -/
  leaves : finish.entries = start.entries.filter (fun entry => tried.all (·.spares reach entry))
  /-- Entries for other addresses stay. -/
  spares : finish.entries.filter (!Entry.isFor owned ·) = start.entries.filter (!Entry.isFor owned ·)

/-- How a pass can end: nothing is owned, the table cannot be read, or it is swept. -/
inductive Pass (reach : Reach) (answers : Answers) (owned : List Address) (start : Desk) :
    Except Fault Tally × Desk → Prop
  | idle (nothing : owned = []) : Pass reach answers owned start (.ok Tally.zero, start)
  | unread (fault : Fault) (something : owned ≠ []) (fails : answers.reading start.log = some fault) :
      Pass reach answers owned start (.error fault, start.heard (.read (.error fault)))
  | swept {tried : List Attempt} {tally : Tally} {finish : Desk} (something : owned ≠ [])
      (sweep : Swept reach answers owned start tried tally finish) :
      Pass reach answers owned start (.ok tally, finish)

variable {reach : Reach} {answers : Answers} {owned : List Address} {start finish : Desk} {tried : List Attempt}
  {tally : Tally}

theorem run_removeAll_cons (reach : Reach) (answers : Answers) (entry : Entry) (rest : List Entry) (tally : Tally)
    (desk : Desk) :
    let attempt : Attempt := ⟨entry, answers.removal desk.log entry⟩
    (removeAll (answers.table reach) (entry :: rest) tally).run desk =
      (removeAll (answers.table reach) rest (tally.count attempt.fault.isNone)).run
        ⟨desk.entries.filter (attempt.spares reach), desk.log ++ [.remove attempt]⟩ := by
  intro attempt
  have removed : ((answers.table reach).remove entry).run desk =
    (attempt.answer, ⟨desk.entries.filter (attempt.spares reach), desk.log ++ [.remove attempt]⟩) := rfl
  simp only [removeAll, StateT.run_bind, removed]
  cases same : attempt.fault with
  | none => simp only [Attempt.answer, same]; rfl
  | some fault => simp only [Attempt.answer, same]; rfl

theorem count_after (tally : Tally) (attempt : Attempt) (rest : List Attempt) :
    (tally.count attempt.fault.isNone).after rest = tally.after (attempt :: rest) := by
  cases same : attempt.fault with
  | none => simp [Tally.count, Tally.after, same, Nat.add_right_comm, ← Nat.add_assoc]
  | some fault => simp [Tally.count, Tally.after, same, Nat.add_right_comm, ← Nat.add_assoc]

theorem Tally.balanced_after {tally : Tally} (balanced : tally.matched = tally.removed + tally.failed)
    (tried : List Attempt) : (tally.after tried).matched = (tally.after tried).removed + (tally.after tried).failed := by
  have opposite : (fun attempt : Attempt => decide ¬attempt.fault.isNone = true) = fun attempt => attempt.fault.isSome := by
    funext attempt
    cases attempt.fault <;> rfl
  have split := List.length_eq_countP_add_countP (fun attempt : Attempt => attempt.fault.isNone) (l := tried)
  rw [opposite] at split
  simp only [Tally.after]
  omega

/-- A failure changes nothing but the count: every entry is tried. -/
theorem run_removeAll (reach : Reach) (answers : Answers) (entries : List Entry) (tally : Tally) (desk : Desk) :
    ∃ tried : List Attempt, tried.map Attempt.entry = entries ∧ answers.Told desk.log tried ∧
      (removeAll (answers.table reach) entries tally).run desk =
        (tally.after tried, ⟨desk.entries.filter (fun entry => tried.all (·.spares reach entry)),
          desk.log ++ tried.map .remove⟩) := by
  induction entries generalizing tally desk with
  | nil =>
    refine ⟨[], rfl, .nil desk.log, ?_⟩
    have same : tally.after [] = tally := rfl
    simp only [same, List.all_nil, List.filter_true, List.map_nil, List.append_nil]
    rfl
  | cons entry rest ih =>
    rw [run_removeAll_cons]
    obtain ⟨tried, tries, told, ran⟩ := ih _ _
    refine ⟨_ :: tried, ?_, .cons entry told, ran.trans ?_⟩
    · rw [List.map_cons, tries]
    · rw [count_after, List.filter_filter]
      simp [Bool.and_comm]

theorem run_invalidate (answers : Answers) (something : owned ≠ []) (desk : Desk) :
    (invalidate (answers.table reach) owned).run desk =
      match answers.reading desk.log with
      | some fault => (.error fault, desk.heard (.read (.error fault)))
      | none =>
        let swept := (removeAll (answers.table reach) (desk.entries.filter (Entry.isFor owned)) Tally.zero).run
          (desk.heard (.read (.ok desk.entries)))
        (.ok swept.1, swept.2) := by
  have read : (answers.table reach).entries.run desk = (answers.found desk, desk.heard (.read (answers.found desk))) :=
    rfl
  have notEmpty : owned.isEmpty = false := List.isEmpty_eq_false_iff.2 something
  simp only [invalidate, notEmpty, Bool.false_eq_true, if_false, StateT.run_bind, read]
  cases same : answers.reading desk.log with
  | some fault => simp only [Answers.found, same]; rfl
  | none => simp only [Answers.found, same]; rfl

theorem Attempt.spares_of_other {attempt : Attempt}
    (tries : tried.map Attempt.entry = start.entries.filter (Entry.isFor owned))
    (inside : attempt ∈ tried) {other : Entry} (foreign : Entry.isFor owned other = false) :
    attempt.spares reach other = true := by
  have due : attempt.entry ∈ start.entries.filter (Entry.isFor owned) := tries ▸ List.mem_map_of_mem inside
  have own : attempt.entry.address ∈ owned := of_decide_eq_true (List.mem_filter.1 due).2
  have notTaken : reach.takes attempt.entry other = false := by
    refine Bool.eq_false_iff.2 (fun taken => ?_)
    rw [← reach.address_eq _ _ taken] at own
    exact absurd own (of_decide_eq_false foreign)
  rw [Attempt.spares, notTaken, Bool.not_false, Bool.or_true]

theorem swept_of_run (reads : answers.reading start.log = none)
    (ran : (removeAll (answers.table reach) (start.entries.filter (Entry.isFor owned)) Tally.zero).run
      (start.heard (.read (.ok start.entries))) = (tally, finish)) :
    ∃ tried, Swept reach answers owned start tried tally finish := by
  obtain ⟨tried, tries, told, ran'⟩ := run_removeAll reach answers (start.entries.filter (Entry.isFor owned)) Tally.zero
    (start.heard (.read (.ok start.entries)))
  obtain ⟨rfl, rfl⟩ := Prod.mk.inj (ran.symm.trans ran')
  have counted : (Tally.zero.after tried).matched = tried.length := Nat.zero_add _
  refine ⟨tried, ⟨reads, tries, told, ?_, ?_, Tally.balanced_after rfl tried, Nat.zero_add _, rfl, ?_⟩⟩
  · simp [Desk.heard]
  · rw [counted, ← tries, List.length_map]
  · rw [List.filter_filter]
    refine List.filter_congr (fun other _ => ?_)
    cases own : Entry.isFor owned other with
    | true => rfl
    | false => simpa using fun attempt inside => Attempt.spares_of_other tries inside own

theorem pass_invalidate (reach : Reach) (answers : Answers) (owned : List Address) (start : Desk) :
    Pass reach answers owned start ((invalidate (answers.table reach) owned).run start) := by
  by_cases nothing : owned = []
  · have same : (invalidate (answers.table reach) owned).run start = (.ok Tally.zero, start) := by
      rw [nothing]
      rfl
    exact same ▸ .idle nothing
  · rw [run_invalidate answers nothing]
    cases reads : answers.reading start.log with
    | some fault => exact .unread fault nothing reads
    | none =>
      obtain ⟨tried, sweep⟩ := swept_of_run reads rfl
      exact .swept nothing sweep

/-- After a sweep without failures no entry for an owned address is left. -/
theorem Swept.cleared (sweep : Swept reach answers owned start tried tally finish) (clean : tally.failed = 0) :
    finish.entries.filter (Entry.isFor owned) = [] := by
  rw [sweep.failed, List.countP_eq_zero] at clean
  refine List.filter_eq_nil_iff.2 (fun entry inside own => ?_)
  rw [sweep.leaves, List.mem_filter] at inside
  have due : entry ∈ tried.map Attempt.entry := sweep.tries ▸ List.mem_filter.2 ⟨inside.1, own⟩
  obtain ⟨attempt, among, rfl⟩ := List.mem_map.1 due
  have spared := List.all_eq_true.1 inside.2 attempt among
  have done : attempt.fault.isSome = false := Bool.eq_false_iff.2 (clean attempt among)
  simp [Attempt.spares, done, reach.takes_self] at spared

/-- If no entry is for an owned address, the table is read and left as it is. -/
theorem run_invalidate_of_cleared (answers : Answers) (something : owned ≠ [])
    (cleared : start.entries.filter (Entry.isFor owned) = []) :
    (invalidate (answers.table reach) owned).run start =
      ((answers.found start).map (fun _ => Tally.zero), start.heard (.read (answers.found start))) := by
  rw [run_invalidate answers something, cleared]
  cases same : answers.reading start.log with
  | some fault => simp only [Answers.found, same]; rfl
  | none => simp only [Answers.found, same]; rfl

/-- A pass with an empty list asks nothing. Any other pass reads the table once, and if it could, tries to remove the
entries for owned addresses, each once and in order, whatever else is known of them and whatever fails; entries for
other addresses stay. After a pass in which nothing failed the next one removes nothing, whatever it is answered. -/
theorem owned_entries_cleared (reach : Reach) (answers : Answers) (owned : List Address) (start : Desk) :
    Pass reach answers owned start ((invalidate (answers.table reach) owned).run start) ∧
      ∀ tally finish, (invalidate (answers.table reach) owned).run start = (.ok tally, finish) → tally.failed = 0 →
        owned ≠ [] → ∀ later : Answers, (invalidate (later.table reach) owned).run finish =
          ((later.found finish).map (fun _ => Tally.zero), finish.heard (.read (later.found finish))) := by
  have pass := pass_invalidate reach answers owned start
  refine ⟨pass, fun tally finish ran clean something later => run_invalidate_of_cleared later something ?_⟩
  rw [ran] at pass
  cases pass with
  | idle nothing => exact absurd nothing something
  | swept _ sweep => exact sweep.cleared clean

/-- An address that is known on two devices goes from both; a second pass leaves the other entry where it is. -/
theorem owned_entries_cleared_on_two_devices :
    let entry (last : UInt8) (device : String) : Entry := ⟨.v4 10 0 0 last, Hardware.zero, .complete, device⟩
    let start : Desk := ⟨[entry 5 "eth0", entry 9 "eth0", entry 5 "eth1"], []⟩
    let answers : Answers := ⟨fun _ => none, fun _ _ => none⟩
    ∃ finish, (invalidate (answers.table .kernel) [.v4 10 0 0 5]).run start = (.ok ⟨2, 2, 0⟩, finish) ∧
      finish.entries = [entry 9 "eth0"] ∧
      (invalidate (answers.table .kernel) [.v4 10 0 0 5]).run finish =
        (.ok Tally.zero, finish.heard (.read (.ok [entry 9 "eth0"]))) := by
  intro entry start answers
  refine ⟨_, rfl, rfl, ?_⟩
  exact (owned_entries_cleared .kernel answers [.v4 10 0 0 5] start).2 ⟨2, 2, 0⟩ _ rfl rfl (by simp) answers

end VipKeeper.Neighbor
