import VipKeeper.LoadBalancer.Resolution
import VipKeeper.Proofs.LoadBalancer.Acceptance
import VipKeeper.Proofs.Lists

/-! An accepted specification always gives an instance that can take part in an election, unless it is to be held
among peers and the node has none. -/

namespace VipKeeper

namespace Unicast

/-- An election of a node with the others of its declared peers, of whom there is at least one. -/
structure Contested (election : Unicast) (declared : List Address) (own : Address) : Prop where
  source : election.source = own
  others : ∀ peer, peer ∈ election.peers ↔ peer ∈ declared ∧ peer ≠ own
  ascending : election.peers.Pairwise (fun a b => Ranked.before a b = true)
  someone : election.peers ≠ []
  apart : election.source ∉ election.peers

theorem mem_peers_among {declared : List Address} {own peer : Address} :
    peer ∈ (among declared own).peers ↔ peer ∈ declared ∧ peer ≠ own := by
  rw [among, Ordered.mem_distinct, List.mem_filter, Bool.not_eq_true', decide_eq_false_iff_not]

theorem source_notMem_among (declared : List Address) (own : Address) :
    (among declared own).source ∉ (among declared own).peers :=
  fun inside => (mem_peers_among.1 inside).2 rfl

theorem peers_among_eq_nil_iff {declared : List Address} {own : Address} :
    (among declared own).peers = [] ↔ ∀ peer ∈ declared, peer = own := by
  simp only [List.eq_nil_iff_forall_not_mem, mem_peers_among, not_and, not_not]

theorem contested_among {declared : List Address} {own : Address} (someone : (among declared own).peers ≠ []) :
    (among declared own).Contested declared own :=
  ⟨rfl, fun _ => mem_peers_among, Ordered.ascending_distinct _, someone, source_notMem_among _ _⟩

end Unicast

namespace LoadBalancer

/-- The instance of an accepted specification can fail only for its peers. -/
theorem Spec.Acceptable.problem?_router {spec : Spec} (acceptable : spec.Acceptable) (key : ObjectKey)
    (unicast : Option Unicast) :
    (spec.accepted.router key unicast).problem? =
      match unicast with
      | none => none
      | some election =>
        if election.peers = [] then some .noPeer
        else if election.source ∈ election.peers then some .sourceAmongPeers
        else none := by
  have kept := acceptable.carries
  have routerId : spec.accepted.routerId ≠ 0 := by
    rw [Ne, ← UInt8.toNat_inj, kept.routerId]
    exact Nat.ne_of_gt acceptable.routerId.1
  have priority : ¬ (spec.accepted.priority = 0 ∨ Instance.highestPriority < spec.accepted.priority) := by
    rw [← UInt8.toNat_inj, UInt8.lt_iff_toNat_lt, kept.priority]
    have bounds := acceptable.priority
    have zero : (0 : UInt8).toNat = 0 := rfl
    have highest : Instance.highestPriority.toNat = 254 := rfl
    omega
  have addresses : ¬ spec.accepted.addresses.isEmpty = true := by
    rw [kept.addresses, List.isEmpty_iff]
    exact acceptable.addresses
  have interface : ¬ (!Interface.isName spec.accepted.interface) = true := by
    rw [kept.interface, acceptable.interface]
    exact Bool.false_ne_true
  unfold Instance.problem? Accepted.router
  rw [if_neg routerId, if_neg priority, if_neg addresses, if_neg interface]
  cases unicast with
  | none => rfl
  | some election => simp only [List.isEmpty_iff]

theorem Spec.Acceptable.problem?_among {spec : Spec} (acceptable : spec.Acceptable) (key : ObjectKey)
    (declared : List Address) (own : Address) :
    (spec.accepted.router key (some (.among declared own))).problem? =
      if (Unicast.among declared own).peers = [] then some .noPeer else none := by
  rw [acceptable.problem?_router]
  simp only [if_neg (Unicast.source_notMem_among declared own)]

/-- A specification asks for peers, and each of them is the node itself. -/
def Spec.Alone (spec : Spec) (source : Option Address) : Prop :=
  ∃ peers own, spec.election.peers = some peers ∧ source = some own ∧ ∀ peer ∈ peers, peer = own

/-- What is accepted as a specification is also accepted as an instance, except where a node is its only peer. -/
theorem router_sound_iff {spec : Spec} {result : Accepted} (valid : spec.validate = .ok result)
    (key : ObjectKey) {source : Option Address} (addressed : spec.election.peers ≠ none → source ≠ none) :
    ∃ unicast, result.unicast source = .ok unicast ∧
      ((result.router key unicast).problem? = none ↔ ¬ spec.Alone source) ∧
      (spec.Alone source → (result.router key unicast).problem? = some .noPeer) ∧
      ((result.router key unicast).problem? = none → ∀ declared, spec.election.peers = some declared →
        ∃ election own, unicast = some election ∧ source = some own ∧ election.Contested declared own) := by
  obtain ⟨acceptable, rfl⟩ := Spec.validate_eq_ok_iff.1 valid
  cases peers : spec.election.peers with
  | none =>
    have company : ¬ spec.Alone source := by simp [Spec.Alone, peers]
    have multicast : spec.accepted.unicast source = .ok none := by simp only [Accepted.unicast, Spec.accepted, peers]
    have sound : (spec.accepted.router key none).problem? = none := acceptable.problem?_router key none
    exact ⟨none, multicast, iff_of_true sound company, fun alone => absurd alone company,
      fun _ _ impossible => nomatch impossible⟩
  | some declared =>
    obtain ⟨own, rfl⟩ := Option.ne_none_iff_exists'.1 (addressed (by simp [peers]))
    have chosen : spec.accepted.unicast (some own) = .ok (some (.among declared own)) := by
      simp only [Accepted.unicast, Spec.accepted, peers]
    have problem := acceptable.problem?_among key declared own
    have alone_iff : spec.Alone (some own) ↔ (Unicast.among declared own).peers = [] := by
      simp [Spec.Alone, peers, Unicast.peers_among_eq_nil_iff]
    refine ⟨_, chosen, ?_⟩
    rw [alone_iff]
    by_cases empty : (Unicast.among declared own).peers = []
    · rw [if_pos empty] at problem
      rw [problem]
      exact ⟨iff_of_false (Option.some_ne_none _) (not_not.2 empty), fun _ => rfl, fun impossible => nomatch impossible⟩
    · rw [if_neg empty] at problem
      refine ⟨iff_of_true problem empty, fun same => absurd same empty, ?_⟩
      rintro - _ ⟨⟩
      exact ⟨_, own, rfl, rfl, Unicast.contested_among empty⟩

/-- A specification with the greatest numbers that are allowed. -/
def peered (peers : List Address) : Spec :=
  ⟨[.v4 10 0 0 5], "eth0", ⟨255, 254, some peers⟩, 1,
    [⟨.udp, "WLC", .empty, .empty⟩, ⟨.tcp, " rr ", .empty, .empty⟩]⟩

def here : Address :=
  .v4 10 0 0 1

def crowd : List Address :=
  [.v4 10 0 0 3, here, .v4 10 0 0 2, .v4 10 0 0 3]

def crowded : Spec :=
  peered crowd

def solitary : Spec :=
  peered [here, here]

/-- Both specifications are accepted; the node can take part in the election of the one and not of the other. -/
theorem router_sound_iff_peered :
    (crowded.validate = .ok crowded.accepted ∧ (crowded.election.peers ≠ none → some here ≠ none) ∧
      ∃ unicast election, crowded.accepted.unicast (some here) = .ok unicast ∧ ¬ crowded.Alone (some here) ∧
        (crowded.accepted.router ⟨"kube-system", "lb"⟩ unicast).problem? = none ∧ unicast = some election ∧
        election.Contested crowd here) ∧
    (solitary.validate = .ok solitary.accepted ∧ (solitary.election.peers ≠ none → some here ≠ none) ∧
      ∃ unicast, solitary.accepted.unicast (some here) = .ok unicast ∧ solitary.Alone (some here) ∧
        (solitary.accepted.router ⟨"kube-system", "lb"⟩ unicast).problem? = some .noPeer) := by
  have addressed (spec : Spec) : spec.election.peers ≠ none → some here ≠ none := fun _ => Option.some_ne_none _
  have valid : crowded.validate = .ok crowded.accepted := if_pos (by decide +kernel)
  have company : ¬ crowded.Alone (some here) := by simp [Spec.Alone, crowded, peered, crowd, here]
  have valid' : solitary.validate = .ok solitary.accepted := if_pos (by decide +kernel)
  have alone : solitary.Alone (some here) := by simp [Spec.Alone, solitary, peered]
  obtain ⟨unicast, chosen, sound, -, elects⟩ := router_sound_iff valid ⟨"kube-system", "lb"⟩ (addressed crowded)
  obtain ⟨election, _, elected, ⟨⟩, contested⟩ := elects (sound.2 company) _ rfl
  obtain ⟨unicast', chosen', -, refused, -⟩ := router_sound_iff valid' ⟨"kube-system", "lb"⟩ (addressed solitary)
  exact ⟨⟨valid, addressed crowded, unicast, election, chosen, company, sound.2 company, elected, contested⟩,
    valid', addressed solitary, unicast', chosen', alone, refused alone⟩

end LoadBalancer

end VipKeeper
