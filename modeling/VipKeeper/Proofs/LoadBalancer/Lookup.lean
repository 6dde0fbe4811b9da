import Mathlib.Data.List.Basic
import VipKeeper.LoadBalancer.Source
import VipKeeper.Proofs.Sync.Draft
import VipKeeper.Proofs.Table

/-! Which load balancer of a document counts for a key.

The differences between documents are taken from tables by key, where the last of several load balancers with one key
counts. A pass reads the first of them. -/

namespace VipKeeper

/-- The load balancer that a change brings, if it brings one. -/
def Change.brought? : Change → Option LoadBalancer
  | .added balancer | .updated _ balancer => some balancer
  | .deleted _ | .vanished _ _ => none

/-- What becomes of one object, if anything changes. -/
def Change.between? : Option LoadBalancer → Option LoadBalancer → Option Change
  | none, none => none
  | none, some new => some (.added new)
  | some old, none => some (.deleted old)
  | some old, some new => if old = new then none else some (.updated old new)

namespace Change

theorem brought?_between? {old new : Option LoadBalancer} {change : Change} (told : between? old new = some change) :
    change.brought? = new := by
  cases old with
  | none => cases new <;> cases told; rfl
  | some previous =>
    cases new with
    | none => cases told; rfl
    | some balancer =>
      simp only [between?] at told
      split at told
      · cases told
      · cases told; rfl

/-- Nothing changes only where both are the same. -/
theorem eq_of_between? {old new : Option LoadBalancer} (none : between? old new = none) : old = new := by
  cases old with
  | none =>
    cases new with
    | none => rfl
    | some balancer => cases none
  | some previous =>
    cases new with
    | none => cases none
    | some balancer =>
      simp only [between?] at none
      split at none
      next same => rw [same]
      next => cases none

theorem key_of_brought {change : Change} {balancer : LoadBalancer} (brings : change.brought? = some balancer) :
    change.key = balancer.key := by
  cases change <;> cases brings <;> rfl

theorem uid?_of_brought {change : Change} {balancer : LoadBalancer} (brings : change.brought? = some balancer) :
    change.uid? = some balancer.uid := by
  cases change <;> cases brings <;> rfl

end Change

namespace SourceDocument

/-- The load balancers of a document with a key, in order. -/
def named (document : SourceDocument) (key : ObjectKey) : List LoadBalancer :=
  document.balancers.filter (fun balancer => decide (balancer.key = key))

theorem key_of_named {document : SourceDocument} {key : ObjectKey} {balancer : LoadBalancer}
    (inside : balancer ∈ document.named key) : balancer.key = key :=
  of_decide_eq_true (List.mem_filter.1 inside).2

theorem get?_eq_head? (document : SourceDocument) (key : ObjectKey) :
    document.get? key = (document.named key).head? := by
  rw [get?, named, List.head?_filter]

theorem get?_byKey (document : SourceDocument) (key : ObjectKey) :
    document.byKey.get? key = (document.named key).getLast? := by
  rw [byKey, OrderedMap.get?_ofList, List.filter_map, List.getLast?_map, Option.map_map]
  exact Option.map_id'

theorem key_of_byKey {document : SourceDocument} {key : ObjectKey} {balancer : LoadBalancer}
    (found : document.byKey.get? key = some balancer) : balancer.key = key := by
  rw [get?_byKey] at found
  exact key_of_named (List.mem_of_getLast? found)

/-- No two load balancers of a document have one key. -/
def DistinctKeys (document : SourceDocument) : Prop :=
  (document.balancers.map LoadBalancer.key).Nodup

/-- Where all keys differ, both ways of looking lead to the same object. -/
theorem get?_eq_byKey {document : SourceDocument} (unique : document.DistinctKeys) (key : ObjectKey) :
    document.get? key = document.byKey.get? key := by
  have apart : (document.named key).Pairwise (fun first second => first.key ≠ second.key) :=
    (List.pairwise_map.1 unique).filter _
  have same : ∀ balancer ∈ document.named key, balancer.key = key := fun _ => key_of_named
  rw [get?_eq_head?, get?_byKey]
  generalize document.named key = found at apart same
  match found with
  | [] => rfl
  | [_] => rfl
  | first :: second :: rest =>
    have different := (List.pairwise_cons.1 apart).1 second (by simp)
    exact absurd ((same first (by simp)).trans (same second (by simp)).symm) different

/-! ### The changes of one object -/

/-- The changes among events. -/
def changes (events : List Event) : List Change :=
  events.filterMap (fun event => match event with
    | .balancer change => some change
    | .membership => none)

theorem changes_cons_balancer (change : Change) (rest : List Event) :
    changes (.balancer change :: rest) = change :: changes rest := rfl

theorem mem_changes {events : List Event} {change : Change} :
    change ∈ changes events ↔ Event.balancer change ∈ events := by
  simp only [changes, List.mem_filterMap]
  constructor
  · rintro ⟨event, inside, told⟩
    cases event with
    | balancer other => exact Option.some.inj told ▸ inside
    | membership => cases told
  · intro inside
    exact ⟨_, inside, rfl⟩

theorem changes_diff (old new : SourceDocument) :
    changes (old.diff new) = arrivals old.byKey new.byKey ++ departures old.byKey new.byKey := by
  have kept (found : List Change) : changes (found.map .balancer) = found := by
    rw [changes, List.filterMap_map]
    exact List.filterMap_some
  have none : changes (if old.membership = new.membership then [] else [.membership]) = [] := by
    split <;> rfl
  rw [diff, changes, List.filterMap_append, ← changes, ← changes, kept, none, List.append_nil]

/-- What is found by looking at each entry of a table, restricted to one key. -/
theorem filter_filterMap_entries {α : Type} (table : OrderedMap ObjectKey LoadBalancer) (key : ObjectKey)
    (look : ObjectKey × LoadBalancer → Option α) (keyOf : α → ObjectKey)
    (named : ∀ entry ∈ table.entries, ∀ found, look entry = some found → keyOf found = entry.1) :
    (table.entries.filterMap look).filter (fun found => decide (keyOf found = key)) =
      (table.get? key).toList.filterMap (fun balancer => look (key, balancer)) := by
  have alone : (table.get? key).toList.filterMap (fun balancer => look (key, balancer)) =
      (table.entries.filter (fun entry => decide (entry.1 = key))).filterMap look := by
    rw [table.filter_entries, List.filterMap_map]
    rfl
  rw [alone, List.filter_filterMap, List.filterMap_filter]
  refine List.filterMap_congr (fun entry inside => ?_)
  cases found : look entry with
  | none => simp
  | some value => simp [Option.filter, named entry inside value found]

theorem arrivals_eq (before after : OrderedMap ObjectKey LoadBalancer) :
    arrivals before after =
      after.entries.filterMap (fun entry => Change.between? (before.get? entry.1) (some entry.2)) := by
  unfold arrivals
  congr 1
  funext entry
  cases found : before.get? entry.1 <;> simp [found, Change.between?]

theorem departures_eq (before after : OrderedMap ObjectKey LoadBalancer) :
    departures before after =
      before.entries.filterMap (fun entry =>
        if after.get? entry.1 = none then Change.between? (some entry.2) none else none) := by
  unfold departures
  congr 1
  funext entry
  cases found : after.get? entry.1 <;> simp [OrderedMap.contains, found, Change.between?]

theorem key_between? {old new : Option LoadBalancer} {key : ObjectKey} {change : Change}
    (before : ∀ balancer, old = some balancer → balancer.key = key)
    (after : ∀ balancer, new = some balancer → balancer.key = key)
    (told : Change.between? old new = some change) : change.key = key := by
  cases old with
  | none =>
    cases new with
    | none => cases told
    | some balancer =>
      cases told
      exact after balancer rfl
  | some previous =>
    cases new with
    | none =>
      cases told
      exact before previous rfl
    | some balancer =>
      simp only [Change.between?] at told
      split at told
      · cases told
      · cases told
        exact after balancer rfl

theorem arrivals_of_key (old new : SourceDocument) (key : ObjectKey) :
    (arrivals old.byKey new.byKey).filter (fun change => decide (change.key = key)) =
      (new.byKey.get? key).toList.filterMap (fun balancer => Change.between? (old.byKey.get? key) (some balancer)) := by
  rw [arrivals_eq, filter_filterMap_entries]
  intro entry inside change told
  refine key_between? (fun balancer found => key_of_byKey found) ?_ told
  rintro balancer ⟨⟩
  exact key_of_byKey (OrderedMap.mem_entries_iff.1 inside)

theorem departures_of_key (old new : SourceDocument) (key : ObjectKey) :
    (departures old.byKey new.byKey).filter (fun change => decide (change.key = key)) =
      (old.byKey.get? key).toList.filterMap (fun balancer =>
        if new.byKey.get? key = none then Change.between? (some balancer) none else none) := by
  rw [departures_eq, filter_filterMap_entries]
  intro entry inside change told
  split at told
  · refine key_between? ?_ (fun _ absent => by cases absent) told
    rintro balancer ⟨⟩
    exact key_of_byKey (OrderedMap.mem_entries_iff.1 inside)
  · cases told

/-- At most one change is about an object, and it is the difference between what the tables hold for it. -/
theorem changes_of_key (old new : SourceDocument) (key : ObjectKey) :
    (changes (old.diff new)).filter (fun change => decide (change.key = key)) =
      (Change.between? (old.byKey.get? key) (new.byKey.get? key)).toList := by
  rw [changes_diff, List.filter_append, arrivals_of_key, departures_of_key]
  cases new.byKey.get? key with
  | none => cases old.byKey.get? key <;> rfl
  | some balancer =>
    cases old.byKey.get? key with
    | none => rfl
    | some previous => cases told : Change.between? (some previous) (some balancer) <;> simp [told]

/-- A difference announces a change exactly if that is what has changed of its object. -/
theorem announced_iff {old new : SourceDocument} {change : Change} :
    Event.balancer change ∈ old.diff new ↔
      Change.between? (old.byKey.get? change.key) (new.byKey.get? change.key) = some change := by
  rw [← mem_changes, ← Option.mem_toList, ← changes_of_key, List.mem_filter]
  simp

/-- What a difference brings for a key is what the table of the later document holds for it. -/
theorem byKey_of_brought {old new : SourceDocument} {change : Change} {balancer : LoadBalancer}
    (announced : Event.balancer change ∈ old.diff new) (brings : change.brought? = some balancer) :
    new.byKey.get? balancer.key = some balancer := by
  have told := announced_iff.1 announced
  rw [Change.key_of_brought brings] at told
  rw [← Change.brought?_between? told, brings]

/-! ### What is read and what is announced -/

/-- Reading the file for a key gives the object that differences are taken from exactly if the first and the last
object with the key are one. A pass that is triggered by the announcement of that object takes it for another one
exactly if the first has another `uid`. -/
theorem read_current_iff (document : SourceDocument) (key : ObjectKey) :
    (∀ files path, Source.object files path key = (Source.load files path).map (fun held => held.get? key)) ∧
      (document.get? key = document.byKey.get? key ↔ (document.named key).head? = (document.named key).getLast?) ∧
      ∀ old change balancer, Event.balancer change ∈ SourceDocument.diff old document →
        change.brought? = some balancer → balancer.key = key →
          document.byKey.get? key = some balancer ∧
            ∀ site, Sync.Aim.ofObject site change.uid? (document.get? key) = .ok .stale ↔
              (document.named key).head?.map LoadBalancer.uid ≠ some balancer.uid := by
  refine ⟨?_, ?_, ?_⟩
  · intro files path
    unfold Source.object
    cases Source.load files path <;> rfl
  · rw [get?_eq_head?, get?_byKey]
  · rintro old change balancer announced brings rfl
    have current := byKey_of_brought announced brings
    refine ⟨current, fun site => ?_⟩
    rw [Sync.ofObject_eq_stale_iff, get?_eq_head?, Change.uid?_of_brought brings]
    rw [get?_byKey] at current
    cases found : document.named balancer.key with
    | nil =>
      rw [found] at current
      cases current
    | cons first rest => simp [Sync.Agrees, eq_comm]

/-- Two objects of one key. -/
def twofold : SourceDocument :=
  ⟨[.plain 100, { LoadBalancer.plain 101 with uid := "v" }], .empty⟩

theorem read_current_iff_twofold :
    Event.balancer (.added { LoadBalancer.plain 101 with uid := "v" }) ∈ empty.diff twofold ∧
      twofold.byKey.get? ⟨"kube-system", "lb"⟩ = some { LoadBalancer.plain 101 with uid := "v" } ∧
      (Sync.Aim.ofObject ⟨none, none⟩ (some "v") (twofold.get? ⟨"kube-system", "lb"⟩) = .ok .stale ↔
        (twofold.named ⟨"kube-system", "lb"⟩).head?.map LoadBalancer.uid ≠ some "v") := by
  have announced : Event.balancer (.added { LoadBalancer.plain 101 with uid := "v" }) ∈ empty.diff twofold := by
    decide +kernel
  have ⟨current, stale⟩ :=
    (read_current_iff twofold ⟨"kube-system", "lb"⟩).2.2 empty (.added { LoadBalancer.plain 101 with uid := "v" })
      { LoadBalancer.plain 101 with uid := "v" } announced rfl rfl
  exact ⟨announced, current, stale ⟨none, none⟩⟩

/-- The second object is announced, but the first is read, and a pass leaves it alone. -/
theorem first_read_last_announced :
    twofold.get? ⟨"kube-system", "lb"⟩ ≠ twofold.byKey.get? ⟨"kube-system", "lb"⟩ ∧
      empty.diff twofold = [.balancer (.added { LoadBalancer.plain 101 with uid := "v" })] ∧
      Sync.Aim.ofObject ⟨none, none⟩ (some "v") (twofold.get? ⟨"kube-system", "lb"⟩) = .ok .stale := by
  decide +kernel

end SourceDocument

end VipKeeper
