import VipKeeper.Proofs.LoadBalancer.Watch

/-! The events between two documents are an exact patch: they lead from the one to the other, tell of nothing that has
not changed, and of what has changed once. -/

namespace VipKeeper

/-- What a change says of its object before and after. -/
def Change.Turns (old new : Option LoadBalancer) : Change → Prop
  | .added balancer => old = none ∧ new = some balancer
  | .updated before after => old = some before ∧ new = some after ∧ before ≠ after
  | .deleted balancer => old = some balancer ∧ new = none
  | .vanished _ _ => False

theorem Change.between?_eq_some_iff {old new : Option LoadBalancer} {change : Change} :
    between? old new = some change ↔ change.Turns old new := by
  cases old with
  | none => cases new <;> cases change <;> simp [between?, Turns]
  | some before =>
    cases new with
    | none => cases change <;> simp [between?, Turns]
    | some after =>
      by_cases same : before = after
      · cases change <;> simp [between?, Turns, same]
        rintro rfl rfl
        rfl
      · cases change <;> simp [between?, Turns, same]
        rintro rfl rfl
        exact same

/-- Load balancers in another order: only neighbours with different keys have changed places. -/
inductive Reordered : List LoadBalancer → List LoadBalancer → Prop where
  | nil : Reordered [] []
  | cons (balancer : LoadBalancer) {first second : List LoadBalancer} (rest : Reordered first second) :
    Reordered (balancer :: first) (balancer :: second)
  | swap {first second : LoadBalancer} (apart : first.key ≠ second.key) (rest : List LoadBalancer) :
    Reordered (first :: second :: rest) (second :: first :: rest)
  | trans {first second third : List LoadBalancer} (once : Reordered first second) (again : Reordered second third) :
    Reordered first third

namespace Reordered

theorem refl (balancers : List LoadBalancer) : Reordered balancers balancers := by
  induction balancers with
  | nil => exact .nil
  | cons balancer rest ih => exact .cons balancer ih

/-- Where all keys differ, every order can be reached. -/
theorem of_perm {first second : List LoadBalancer} (perm : first.Perm second)
    (unique : (first.map LoadBalancer.key).Nodup) : Reordered first second := by
  induction perm with
  | nil => exact .nil
  | cons balancer _ ih => exact .cons balancer (ih (List.nodup_cons.1 unique).2)
  | swap first second rest =>
    have apart : second.key ≠ first.key := by
      have outside := (List.nodup_cons.1 unique).1
      rw [List.map_cons, List.mem_cons, not_or] at outside
      exact outside.1
    exact .swap apart rest
  | trans once _ first second => exact .trans (first unique) (second ((once.map _).nodup_iff.1 unique))

theorem filter_key {first second : List LoadBalancer} (reordered : Reordered first second) (key : ObjectKey) :
    second.filter (fun balancer => decide (balancer.key = key)) =
      first.filter (fun balancer => decide (balancer.key = key)) := by
  induction reordered with
  | nil => rfl
  | cons balancer _ ih => rw [List.filter_cons, List.filter_cons, ih]
  | @swap first second apart rest =>
    -- At most one of the two has the key.
    by_cases found : first.key = key
    · have other : second.key ≠ key := fun same => apart (found.trans same.symm)
      simp [found, other]
    · simp [List.filter_cons, found]
  | trans _ _ first second => exact second.trans first

end Reordered

namespace SourceDocument

theorem byKey_of_reordered {document : SourceDocument} {balancers : List LoadBalancer}
    (reordered : Reordered document.balancers balancers) :
    byKey ⟨balancers, document.membership⟩ = document.byKey := by
  refine OrderedMap.eq_of_get? (fun key => ?_)
  rw [get?_byKey, get?_byKey, named, named, reordered.filter_key]

/-! ### The parts of a patch -/

/-- Events that lead from one document to another. Each change is told once and nothing else is, and that the nodes have
changed is told last. -/
structure Patch (old new : SourceDocument) (events : List Event) : Prop where
  rebuilds : events.foldl Event.learn old.byKey = new.byKey
  told_iff : ∀ change, Event.balancer change ∈ events ↔
    change.Turns (old.byKey.get? change.key) (new.byKey.get? change.key)
  once : ((changes events).map Change.key).Nodup
  memberships : events = (changes events).map .balancer ++
    if old.membership = new.membership then [] else [.membership]

theorem nodup_keys_diff (old new : SourceDocument) : ((changes (old.diff new)).map Change.key).Nodup := by
  refine List.nodup_iff_count.2 (fun key => ?_)
  have alone := congrArg List.length (changes_of_key old new key)
  rw [List.count, List.countP_map, List.countP_eq_length_filter]
  calc ((changes (old.diff new)).filter (fun change => decide (change.key = key))).length
      = (Change.between? (old.byKey.get? key) (new.byKey.get? key)).toList.length := alone
    _ ≤ 1 := by cases Change.between? (old.byKey.get? key) (new.byKey.get? key) <;> simp

theorem patch_diff (old new : SourceDocument) : Patch old new (old.diff new) :=
  ⟨foldl_learn_diff old new, fun _ => announced_iff.trans Change.between?_eq_some_iff, nodup_keys_diff old new,
    by rw [changes_diff]; rfl⟩

theorem diff_eq_nil {old new : SourceDocument} (balancers : old.byKey = new.byKey)
    (nodes : old.membership = new.membership) : old.diff new = [] := by
  have still (change : Change) : Event.balancer change ∉ old.diff new := by
    rw [announced_iff, balancers]
    cases new.byKey.get? change.key <;> simp [Change.between?]
  refine List.eq_nil_iff_forall_not_mem.2 (fun event inside => ?_)
  cases event with
  | balancer change => exact still change inside
  | membership =>
    have count := count_membership_diff old new
    rw [if_pos nodes] at count
    exact List.count_eq_zero.1 count inside

/-- The difference of two documents is an exact patch, and none if the documents declare the same. The order in which
objects with different keys are declared makes no difference. -/
theorem diff_exact (old new : SourceDocument) :
    Patch old new (old.diff new) ∧
      (old.byKey = new.byKey → old.membership = new.membership → old.diff new = []) ∧
      ∀ oldOrder newOrder, Reordered old.balancers oldOrder → Reordered new.balancers newOrder →
        SourceDocument.diff ⟨oldOrder, old.membership⟩ ⟨newOrder, new.membership⟩ = old.diff new := by
  refine ⟨patch_diff old new, diff_eq_nil, fun oldOrder newOrder before after => ?_⟩
  rw [diff, byKey_of_reordered before, byKey_of_reordered after, diff]

def neighbour : LoadBalancer :=
  { LoadBalancer.plain 101 with key := ⟨"kube-system", "other"⟩ }

def ordered : SourceDocument :=
  ⟨[.plain 100, neighbour], .empty⟩

/-- Two objects change places while one of them is edited. -/
theorem diff_exact_exchanged :
    Reordered ordered.balancers [neighbour, .plain 100] ∧ Reordered [neighbour, .plain 102] [neighbour, .plain 102] ∧
      SourceDocument.diff ⟨[neighbour, .plain 100], .empty⟩ ⟨[neighbour, .plain 102], .empty⟩ =
        ordered.diff ⟨[neighbour, .plain 102], .empty⟩ ∧
      ordered.byKey = byKey ⟨[neighbour, .plain 100], .empty⟩ ∧
      ordered.diff ⟨[neighbour, .plain 100], .empty⟩ = [] := by
  have unique : (ordered.balancers.map LoadBalancer.key).Nodup := by decide
  have exchanged : Reordered ordered.balancers [neighbour, .plain 100] := .of_perm (.swap _ _ _) unique
  have same := byKey_of_reordered exchanged
  have still := Reordered.refl [neighbour, .plain 102]
  exact ⟨exchanged, still, (diff_exact ordered ⟨[neighbour, .plain 102], .empty⟩).2.2 _ _ exchanged still,
    same.symm, (diff_exact ordered ⟨[neighbour, .plain 100], .empty⟩).2.1 same.symm rfl⟩

end SourceDocument

end VipKeeper
