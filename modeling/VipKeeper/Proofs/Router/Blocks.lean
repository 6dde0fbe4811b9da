import Mathlib.Data.List.SplitBy
import VipKeeper.Proofs.Router.Turns

/-! Reports in blocks. Of consecutive equal reports only the first tells of a transition, and a block of reports of the
start tells of none. -/

namespace VipKeeper

/-- The transition into a role. -/
def Transition.into? : Role → Option Transition
  | .init => none
  | .backup => some .becameBackup
  | .master => some .becameMaster

namespace Transition

theorem between?_self (role : Role) : between? role role = none := by
  cases role <;> rfl

theorem between?_of_ne {old new : Role} (apart : old ≠ new) : between? old new = into? new := by
  revert apart
  cases old <;> cases new <;> decide

theorem between?_eq_becameMaster_iff {old new : Role} :
    between? old new = some .becameMaster ↔ new = .master ∧ old ≠ .master := by
  cases old <;> cases new <;> decide

end Transition

namespace Role

/-- What each of a row of reports tells, after a role that was known before. -/
def told (start : Role) (reports : List Role) : List (Option Transition) :=
  (successions start reports).map (fun pair => Transition.between? pair.1 pair.2)

/-- What a block of equal reports tells. -/
def announced : List Role → List (Option Transition)
  | [] => []
  | role :: rest => Transition.into? role :: List.replicate rest.length none

theorem told_append (start : Role) (earlier later : List Role) :
    start.told (earlier ++ later) = start.told earlier ++ (earlier.getLastD start).told later := by
  rw [told, successions_append, List.map_append]
  rfl

theorem told_replicate (role : Role) (count : Nat) :
    role.told (List.replicate count role) = List.replicate count none := by
  induction count with
  | zero => rfl
  | succ count ih =>
    rw [List.replicate_succ, List.replicate_succ, ← ih, told, successions_cons, List.map_cons, ← told,
      Transition.between?_self]

/-- A block that begins with another role than the last one tells of the transition into its role. -/
theorem told_block {start role : Role} (fresh : Transition.between? start role = Transition.into? role)
    (count : Nat) :
    start.told (role :: List.replicate count role) = announced (role :: List.replicate count role) := by
  have rest := told_replicate role count
  rw [told] at rest
  rw [told, successions_cons, List.map_cons, rest, fresh, announced, List.length_replicate]

/-- All reports of a block are equal. -/
theorem eq_replicate_of_isChain {role : Role} {rest : List Role}
    (chain : (role :: rest).IsChain (fun first second => (first == second) = true)) :
    ∃ count, rest = List.replicate count role := by
  have equal : (role :: rest).IsChain Eq := chain.imp (fun _ _ same => eq_of_beq same)
  have all := (List.pairwise_cons.1 (List.isChain_iff_pairwise.1 equal)).1
  exact ⟨rest.length, List.eq_replicate_iff.2 ⟨rfl, fun other inside => (all other inside).symm⟩⟩

theorem getLast_block (role : Role) (count : Nat) (occupied : role :: List.replicate count role ≠ []) :
    (role :: List.replicate count role).getLast occupied = role := by
  rcases List.mem_cons.1 (List.getLast_mem occupied) with same | inside
  · exact same
  · exact List.eq_of_mem_replicate inside

/-- What is told after a role is told block by block, unless the first block goes on with that role. -/
theorem told_eq_flatMap_announced (start : Role) (reports : List Role)
    (fresh : ∀ role ∈ reports.head?, Transition.between? start role = Transition.into? role) :
    start.told reports = (reports.splitBy (· == ·)).flatMap announced := by
  generalize found : reports.splitBy (· == ·) = blocks
  obtain ⟨rfl, occupied, uniform, apart⟩ := List.splitBy_eq_iff.1 found
  clear found
  induction blocks generalizing start with
  | nil => rfl
  | cons block later ih =>
    cases block with
    | nil => exact absurd List.mem_cons_self occupied
    | cons role rest =>
      obtain ⟨count, rfl⟩ := eq_replicate_of_isChain (uniform _ List.mem_cons_self)
      have last : (role :: List.replicate count role).getLastD start = role := by
        rw [List.getLastD_eq_getLast?, List.getLast?_eq_some_getLast (List.cons_ne_nil _ _), getLast_block, Option.getD_some]
      -- The next block begins with another role.
      have freshLater : ∀ next ∈ later.flatten.head?, Transition.between? role next = Transition.into? next := by
        intro next first
        cases later with
        | nil => cases first
        | cons following others =>
          obtain ⟨_, begun, different⟩ := (List.isChain_cons_cons.1 apart).1
          rw [getLast_block, beq_eq_false_iff_ne] at different
          rw [List.flatten_cons, List.head?_append_of_ne_nil _ begun, List.head?_eq_some_head begun] at first
          cases first
          exact Transition.between?_of_ne different
      have rest := ih role freshLater (fun inside => occupied (List.mem_cons_of_mem _ inside))
        (fun block inside => uniform block (List.mem_cons_of_mem _ inside)) apart.tail
      rw [List.flatten_cons, told_append, told_block (fresh role rfl), last, rest, List.flatMap_cons]

/-- A mastership is told of at a report of it that follows another report, or none. -/
theorem told_eq_becameMaster_iff (start : Role) (reports : List Role) (i : Nat) :
    (start.told reports)[i]? = some (some .becameMaster) ↔
      reports[i]? = some .master ∧ ∃ role, (start :: reports)[i]? = some role ∧ role ≠ .master := by
  rw [told, List.getElem?_map, Option.map_eq_some_iff]
  constructor
  · rintro ⟨⟨old, new⟩, found, turn⟩
    obtain ⟨before, after⟩ := List.getElem?_zip_eq_some.1 found
    obtain ⟨rfl, apart⟩ := Transition.between?_eq_becameMaster_iff.1 turn
    exact ⟨after, old, before, apart⟩
  · rintro ⟨after, old, before, apart⟩
    exact ⟨(old, .master), List.getElem?_zip_eq_some.2 ⟨before, after⟩,
      Transition.between?_eq_becameMaster_iff.2 ⟨rfl, apart⟩⟩

end Role

namespace Tracker

/-- Observes reports one after the other, each with the transition that it amounts to, if any. -/
def observeAll (tracker : Tracker) : List Role → Tracker × List (Option Transition)
  | [] => (tracker, [])
  | reported :: rest =>
    let (next, told) := tracker.observe reported
    let (last, later) := next.observeAll rest
    (last, told :: later)

theorem observeAll_eq (tracker : Tracker) (reports : List Role) :
    tracker.observeAll reports = (⟨tracker.router, reports.getLastD tracker.role⟩, tracker.role.told reports) := by
  induction reports generalizing tracker with
  | nil => rfl
  | cons reported rest ih =>
    rw [observeAll, observe_eq]
    dsimp only
    rw [ih, List.getLastD_cons]
    rfl

/-- A fresh tracker tells of a transition once in each block of equal reports, at the first of them, and knows the last
report in the end. Between two masterships there was a report of another role. -/
theorem one_transition_per_block (router : String) (reports : List Role) :
    (start router).observeAll reports =
        (⟨router, reports.getLastD .init⟩, (reports.splitBy (· == ·)).flatMap Role.announced) ∧
      ∀ i j : Nat, i < j → ((start router).observeAll reports).2[i]? = some (some .becameMaster) →
        ((start router).observeAll reports).2[j]? = some (some .becameMaster) →
          ∃ k role, i < k ∧ k < j ∧ reports[k]? = some role ∧ role ≠ .master := by
  rw [observeAll_eq]
  refine ⟨Prod.ext rfl (Role.told_eq_flatMap_announced .init reports ?_), ?_⟩
  · intro role _
    cases role <;> rfl
  · intro i j later first second
    obtain ⟨master, -⟩ := (Role.told_eq_becameMaster_iff ..).1 first
    obtain ⟨-, role, before, apart⟩ := (Role.told_eq_becameMaster_iff ..).1 second
    -- The report just before the second mastership is not the first one, which was of a master.
    obtain ⟨k, rfl⟩ := Nat.exists_eq_succ_of_ne_zero (Nat.ne_of_gt (Nat.zero_lt_of_lt later))
    have different : k ≠ i := by
      rintro rfl
      exact apart (Option.some.inj (before.symm.trans master))
    exact ⟨k, role, by omega, Nat.lt_succ_self k, before, apart⟩

/-- A master who stops and comes back is told of twice. -/
theorem one_transition_per_block_stopped :
    ((start "lb").observeAll [.backup, .master, .master, .init, .master]).2[1]? = some (some .becameMaster) ∧
      ((start "lb").observeAll [.backup, .master, .master, .init, .master]).2[4]? = some (some .becameMaster) ∧
      ∃ k role, 1 < k ∧ k < 4 ∧ [Role.backup, .master, .master, .init, .master][k]? = some role ∧ role ≠ .master :=
  ⟨rfl, rfl, (one_transition_per_block "lb" [.backup, .master, .master, .init, .master]).2 1 4 (by decide) rfl rfl⟩

end Tracker

end VipKeeper
