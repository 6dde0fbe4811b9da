import VipKeeper.Failover
import VipKeeper.Proofs.Sync.Journal

/-! How the counts of the program go together.

A pass is counted once by its outcome and once by its duration, with a reload or an error if there was one. A change of
role is counted by the role, with what was removed for it or with an error of a kind that no pass has. -/

namespace VipKeeper

namespace Tallies

/-- How often a name was counted. -/
def counted (tallies : Tallies) (name : String) : Nat :=
  (tallies.get? name).getD 0

theorem counted_count (tallies : Tallies) (name other : String) :
    counted (count tallies name) other = counted tallies other + if other = name then 1 else 0 := by
  unfold counted count OrderedMap.alter
  rw [OrderedMap.get?_insert]
  split
  next same => rw [same, Option.getD_some]
  next => rfl

/-- The value of an entry takes the place of the one that had its key. -/
theorem sum_put {entries : List (String × Nat)}
    (ordered : entries.Pairwise (fun a b => Ranked.before a.1 b.1 = true)) (name : String) (value : Nat) :
    (Ordered.put name value entries).foldr (fun entry rest => entry.2 + rest) 0 +
        ((entries.find? (fun entry => decide (entry.1 = name))).map Prod.snd).getD 0 =
      entries.foldr (fun entry rest => entry.2 + rest) 0 + value := by
  induction entries with
  | nil => exact Nat.add_comm _ _
  | cons head rest ih =>
    have ⟨above, later⟩ := List.pairwise_cons.1 ordered
    unfold Ordered.put
    split
    next below =>
      have absent : (head :: rest).find? (fun entry => decide (entry.1 = name)) = none := by
        rw [List.find?_eq_none]
        intro entry inside
        have after : Ranked.before name entry.1 = true := by
          rcases List.mem_cons.1 inside with same | inside
          · exact same ▸ below
          · exact Ranked.trans below (above entry inside)
        simpa using (Ordered.ne_of_before after).symm
      simp only [absent, List.foldr_cons, Option.map_none, Option.getD_none]
      omega
    next notBelow =>
      split
      next after =>
        have apart : head.1 ≠ name := Ordered.ne_of_before after
        have moved := ih later
        simp only [List.foldr_cons, List.find?_cons, apart, decide_false]
        omega
      next notAfter =>
        have same : name = head.1 := Ranked.total (Bool.eq_false_iff.2 notBelow) (Bool.eq_false_iff.2 notAfter)
        simp only [List.foldr_cons, List.find?_cons, same, decide_true, Option.map_some, Option.getD_some]
        omega

theorem total_count (tallies : Tallies) (name : String) : total (count tallies name) = total tallies + 1 := by
  have moved := sum_put tallies.ordered name (counted tallies name + 1)
  change total (count tallies name) + counted tallies name = total tallies + (counted tallies name + 1) at moved
  omega

theorem total_erase (tallies : Tallies) (name : String) :
    total (tallies.erase name) + counted tallies name = total tallies := by
  have split (entries : List (String × Nat)) :
      (entries.filter (fun entry => !decide (entry.1 = name))).foldr (fun entry rest => entry.2 + rest) 0 +
          (entries.filter (fun entry => decide (entry.1 = name))).foldr (fun entry rest => entry.2 + rest) 0 =
        entries.foldr (fun entry rest => entry.2 + rest) 0 := by
    induction entries with
    | nil => rfl
    | cons head rest ih => by_cases same : head.1 = name <;> simp [same] <;> omega
  have own : (tallies.entries.filter (fun entry => decide (entry.1 = name))).foldr
      (fun entry rest => entry.2 + rest) 0 = counted tallies name := by
    rw [OrderedMap.filter_entries, counted]
    cases tallies.get? name <;> rfl
  rw [← own]
  exact split tallies.entries

/-- What is counted for one name does not show in the total of the others. -/
theorem total_erase_count (tallies : Tallies) (name other : String) :
    total ((count tallies name).erase other) = total (tallies.erase other) + if name = other then 0 else 1 := by
  have before := total_erase tallies other
  have after := total_erase (count tallies name) other
  rw [total_count, counted_count] at after
  by_cases same : name = other
  · simp only [same, if_true] at after ⊢
    omega
  · simp only [same, Ne.symm same, if_false] at after ⊢
    omega

end Tallies

/-- Failed passes are not mistaken for invalidations. -/
theorem Failure.kind_ne_neighbor (failure : Failure) : failure.kind ≠ "neighbor" := by
  cases failure <;> simp [kind]

/-- The number of entries that an invalidation reports to have removed. -/
def Failover.reported : Option Neighbor.Tally → Nat
  | none => 0
  | some tally => tally.removed

namespace Metrics

open Tallies (counted total)

/-- The counts after a number of finished passes, of reloads of the daemon, of changes of role and of removed
entries. -/
structure Balanced (metrics : Metrics) (finished reloads turned removed : Nat) : Prop where
  passes : total metrics.passes = finished
  durations : metrics.durations.count = finished
  errors : counted metrics.passes "error" = total (metrics.errors.erase "neighbor")
  installed : counted metrics.passes "installed" = reloads
  reloads : metrics.reloads = reloads
  transitions : total metrics.transitions = turned
  invalidations : metrics.invalidations = removed

theorem balanced_zero : zero.Balanced 0 0 0 0 :=
  ⟨rfl, rfl, rfl, rfl, rfl, rfl, rfl⟩

variable {metrics : Metrics} {finished reloads turned removed : Nat}

/-- The depth has nothing to do with it. -/
theorem Balanced.withDepth (balanced : metrics.Balanced finished reloads turned removed) (depth : Nat) :
    (metrics.withDepth depth).Balanced finished reloads turned removed :=
  ⟨balanced.passes, balanced.durations, balanced.errors, balanced.installed, balanced.reloads, balanced.transitions,
    balanced.invalidations⟩

/-- A pass counts its reload, and its end is counted under its outcome, which tells whether there was one. -/
theorem Balanced.count {controller : Sync.Controller}
    (balanced : controller.metrics.Balanced finished reloads turned removed) (span : Span)
    (result : Except Failure Sync.Outcome) :
    ((controller.countReload result).count span result).metrics.Balanced (finished + 1)
      (reloads + if result = .ok .installed then 1 else 0) turned removed := by
  have passes (outcome : String) : total (Tallies.count controller.metrics.passes outcome) = finished + 1 := by
    rw [Tallies.total_count, balanced.passes]
  have durations : (controller.metrics.durations.observe span).count = finished + 1 :=
    congrArg (· + 1) balanced.durations
  have quiet (outcome : Sync.Outcome) (other : outcome ≠ .installed) :
      (controller.metrics.countPass outcome.name span).Balanced (finished + 1) reloads turned removed := by
    have unfailed : ¬ "error" = outcome.name := by cases outcome <;> decide
    have uninstalled : ¬ "installed" = outcome.name := by cases outcome <;> first | exact absurd rfl other | decide
    refine ⟨passes _, durations, ?_, ?_, balanced.reloads, balanced.transitions, balanced.invalidations⟩
    · exact ((Tallies.counted_count ..).trans (by rw [if_neg unfailed, Nat.add_zero])).trans balanced.errors
    · exact ((Tallies.counted_count ..).trans (by rw [if_neg uninstalled, Nat.add_zero])).trans balanced.installed
  match result with
  | .ok .unchanged => exact quiet .unchanged (by decide)
  | .ok .deleted => exact quiet .deleted (by decide)
  | .ok .stale => exact quiet .stale (by decide)
  | .ok .installed =>
    refine ⟨passes _, durations, ?_, ?_, ?_, balanced.transitions, balanced.invalidations⟩
    · exact (Tallies.counted_count ..).trans balanced.errors
    · exact (Tallies.counted_count ..).trans (congrArg (· + 1) balanced.installed)
    · exact congrArg (· + 1) balanced.reloads
  | .error failure =>
    refine ⟨passes _, durations, ?_, ?_, balanced.reloads, balanced.transitions, balanced.invalidations⟩
    · have own : total ((Tallies.count controller.metrics.errors failure.kind).erase "neighbor") =
          total (controller.metrics.errors.erase "neighbor") + 1 :=
        (Tallies.total_erase_count ..).trans (by rw [if_neg failure.kind_ne_neighbor])
      exact ((Tallies.counted_count ..).trans (congrArg (· + 1) balanced.errors)).trans own.symm
    · exact (Tallies.counted_count ..).trans balanced.installed

theorem Balanced.countTransition (balanced : metrics.Balanced finished reloads turned removed) (role : String) :
    (metrics.countTransition role).Balanced finished reloads (turned + 1) removed :=
  ⟨balanced.passes, balanced.durations, balanced.errors, balanced.installed, balanced.reloads,
    (Tallies.total_count ..).trans (congrArg (· + 1) balanced.transitions), balanced.invalidations⟩

/-- What a failed or incomplete invalidation counts is none of the errors of passes. -/
theorem Balanced.countNeighborError (balanced : metrics.Balanced finished reloads turned removed) :
    (metrics.countError Failover.errorKind).Balanced finished reloads turned removed := by
  have others : total ((Tallies.count metrics.errors Failover.errorKind).erase "neighbor") =
      total (metrics.errors.erase "neighbor") := by
    rw [Tallies.total_erase_count, if_pos (show Failover.errorKind = "neighbor" from rfl), Nat.add_zero]
  exact ⟨balanced.passes, balanced.durations, balanced.errors.trans others.symm, balanced.installed, balanced.reloads,
    balanced.transitions, balanced.invalidations⟩

theorem Balanced.countInvalidations (balanced : metrics.Balanced finished reloads turned removed) (more : Nat) :
    (metrics.countInvalidations more).Balanced finished reloads turned (removed + more) :=
  ⟨balanced.passes, balanced.durations, balanced.errors, balanced.installed, balanced.reloads, balanced.transitions,
    congrArg (· + more) balanced.invalidations⟩

theorem Balanced.conclude (balanced : metrics.Balanced finished reloads turned removed)
    (result : Except Mishap Neighbor.Tally) :
    (Failover.conclude metrics result).1.Balanced finished reloads turned
      (removed + Failover.reported (Failover.conclude metrics result).2) := by
  cases result with
  | error mishap => exact balanced.countNeighborError
  | ok tally =>
    have counted := balanced.countInvalidations tally.removed
    unfold Failover.conclude
    dsimp only
    split
    next => exact counted
    next => exact counted.countNeighborError

end Metrics

end VipKeeper
