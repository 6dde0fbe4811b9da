import Mathlib.Data.List.Count
import Mathlib.Data.List.Perm.Basic
import VipKeeper.LoadBalancer.Validation

/-! Which specifications are accepted, what is reported of the others, and what an accepted one keeps. -/

namespace VipKeeper

namespace Scheduler

/-- A text names a scheduler in any case of its letters and with white space around it. -/
def IsNamedBy (scheduler : Scheduler) (text : String) : Prop :=
  (Text.trim text).toList.map Char.toLower = scheduler.name.toList.map Char.toLower

def IsKnown (text : String) : Prop :=
  ∃ scheduler : Scheduler, scheduler.IsNamedBy text

theorem toList_name_of_ofName? {text : String} {scheduler : Scheduler} (found : ofName? text = some scheduler) :
    scheduler.name.toList = (Text.trim text).toList.map Char.toLower := by
  simp only [ofName?] at found
  have same := List.find?_some found
  exact of_decide_eq_true same

theorem ofName?_eq_some_iff {text : String} {scheduler : Scheduler} :
    ofName? text = some scheduler ↔ scheduler.IsNamedBy text := by
  have small (scheduler : Scheduler) : scheduler.name.toList.map Char.toLower = scheduler.name.toList := by
    cases scheduler <;> decide +kernel
  unfold IsNamedBy
  rw [small]
  constructor
  · exact fun found => (toList_name_of_ofName? found).symm
  · intro named
    simp only [ofName?, named]
    cases scheduler <;> decide +kernel

theorem isNone_ofName?_iff {text : String} : (ofName? text).isNone = true ↔ ¬ IsKnown text := by
  rw [Option.isNone_iff_eq_none, Option.eq_none_iff_forall_ne_some, IsKnown, not_exists]
  exact forall_congr' (fun scheduler => not_congr ofName?_eq_some_iff)

instance (text : String) : Decidable (IsKnown text) :=
  decidable_of_iff (¬ (ofName? text).isNone = true) (by rw [isNone_ofName?_iff, not_not])

end Scheduler

namespace LoadBalancer

/-! ### Counting problems -/

theorem count_report (holds : Bool) (problem other : Problem) :
    (report holds problem).count other = if holds = true ∧ other = problem then 1 else 0 := by
  cases holds with
  | false => simp [report]
  | true =>
    rw [report, if_pos rfl, List.count_singleton]
    simp [eq_comm (a := problem)]

/-- A value is reported for each occurrence but the first one. -/
theorem count_repeated {α : Type} [DecidableEq α] (seen values : List α) (value : α) :
    (repeated seen values).count value = if value ∈ seen then values.count value else values.count value - 1 := by
  induction values generalizing seen with
  | nil => simp [repeated]
  | cons head rest ih =>
    unfold repeated
    split
    next before =>
      rw [List.count_cons, ih, List.count_cons]
      by_cases same : head = value
      · subst same
        simp [before]
      · simp [same]
    next fresh =>
      rw [ih, List.count_cons]
      by_cases same : head = value
      · subst same
        simp [fresh]
      · simp [same, Ne.symm same]

theorem count_repeatedProtocol (seen : List Protocol) (services : List Declared) (protocol : Protocol) :
    (serviceProblems seen services).count (.repeatedProtocol protocol) =
      (repeated seen (services.map Declared.protocol)).count protocol := by
  induction services generalizing seen with
  | nil => rfl
  | cons declared rest ih =>
    simp only [serviceProblems, List.count_append, count_report, ih, count_repeated, List.map_cons, List.count_cons,
      List.mem_cons, decide_eq_true_eq]
    by_cases same : protocol = declared.protocol
    · subst same
      by_cases before : declared.protocol ∈ seen
      · simp [before, Nat.add_comm]
      · simp [before]
    · simp [same, Ne.symm same]

theorem count_unknownScheduler (seen : List Protocol) (services : List Declared) (protocol : Protocol) (name : String) :
    (serviceProblems seen services).count (.unknownScheduler protocol name) =
      if Scheduler.IsKnown name then 0
      else (services.map (fun declared => (declared.protocol, declared.scheduler))).count (protocol, name) := by
  induction services generalizing seen with
  | nil => simp [serviceProblems]
  | cons declared rest ih =>
    simp only [serviceProblems, List.count_append, count_report, ih, Declared.service?, Option.isNone_map,
      Scheduler.isNone_ofName?_iff, List.map_cons, List.count_cons]
    by_cases same : protocol = declared.protocol ∧ name = declared.scheduler
    · obtain ⟨rfl, rfl⟩ := same
      by_cases known : Scheduler.IsKnown declared.scheduler
      · simp [known]
      · simp [known, Nat.add_comm]
    · have apart : ¬ ((declared.protocol, declared.scheduler) = (protocol, name)) := by
        simpa [Prod.ext_iff, eq_comm] using same
      simp [same, apart]

theorem count_repeatedAddress (seen addresses : List Address) (address : Address) :
    ((repeated seen addresses).map Problem.repeatedAddress).count (.repeatedAddress address) =
      (repeated seen addresses).count address :=
  List.count_map_of_injective _ _ (fun _ _ => Problem.repeatedAddress.inj) _

theorem count_repeatedAddress_eq_zero (seen addresses : List Address) {problem : Problem}
    (others : ∀ address, problem ≠ .repeatedAddress address) :
    ((repeated seen addresses).map Problem.repeatedAddress).count problem = 0 := by
  refine List.count_eq_zero.2 (fun inside => ?_)
  obtain ⟨address, -, same⟩ := List.mem_map.1 inside
  exact others address same.symm

/-- Services are reported for nothing else. -/
theorem count_serviceProblems_eq_zero (seen : List Protocol) (services : List Declared) {problem : Problem}
    (protocols : ∀ protocol, problem ≠ .repeatedProtocol protocol)
    (schedulers : ∀ protocol name, problem ≠ .unknownScheduler protocol name) :
    (serviceProblems seen services).count problem = 0 := by
  induction services generalizing seen with
  | nil => rfl
  | cons declared rest ih =>
    simp [serviceProblems, count_report, ih, protocols, schedulers]

namespace Spec

/-- The conditions on a specification. -/
structure Acceptable (spec : Spec) : Prop where
  addresses : spec.addresses ≠ []
  distinct : spec.addresses.Nodup
  interface : Interface.isName spec.interface = true
  routerId : 1 ≤ spec.election.routerId.toNat ∧ spec.election.routerId.toNat ≤ 255
  priority : 1 ≤ spec.election.priority.toNat ∧ spec.election.priority.toNat ≤ 254
  peers : spec.election.peers ≠ some []
  fwmark : 0 < spec.fwmark.toNat
  services : spec.services ≠ []
  protocols : (spec.services.map Declared.protocol).Nodup
  schedulers : ∀ declared ∈ spec.services, Scheduler.IsKnown declared.scheduler

/-- How often a specification violates a condition. -/
def violations (spec : Spec) : Problem → Nat
  | .noAddress => if spec.addresses = [] then 1 else 0
  | .repeatedAddress address => spec.addresses.count address - 1
  | .interfaceName name => if Interface.isName spec.interface = false ∧ name = spec.interface then 1 else 0
  | .routerId given =>
    if ¬ (1 ≤ spec.election.routerId.toNat ∧ spec.election.routerId.toNat ≤ 255) ∧ given = spec.election.routerId then 1
    else 0
  | .priority given =>
    if ¬ (1 ≤ spec.election.priority.toNat ∧ spec.election.priority.toNat ≤ 254) ∧ given = spec.election.priority then 1
    else 0
  | .noPeer => if spec.election.peers = some [] then 1 else 0
  | .fwmark => if spec.fwmark.toNat = 0 then 1 else 0
  | .noService => if spec.services = [] then 1 else 0
  | .repeatedProtocol protocol => (spec.services.map Declared.protocol).count protocol - 1
  | .unknownScheduler protocol name =>
    if Scheduler.IsKnown name then 0
    else (spec.services.map (fun declared => (declared.protocol, declared.scheduler))).count (protocol, name)
  | .noSourceAddress | .router _ | .remark _ => 0

theorem outside_iff (number bound : UInt32) :
    (number == 0 || decide (bound < number)) = true ↔ ¬ (1 ≤ number.toNat ∧ number.toNat ≤ bound.toNat) := by
  simp only [Bool.or_eq_true, beq_iff_eq, decide_eq_true_eq, UInt32.lt_iff_toNat_lt, ← UInt32.toNat_inj]
  have zero : (0 : UInt32).toNat = 0 := rfl
  omega

/-- Every violation is reported once. -/
theorem count_problems (spec : Spec) (problem : Problem) : spec.problems.count problem = spec.violations problem := by
  simp only [problems, List.count_append, count_report, outside_iff]
  cases problem with
  | repeatedAddress address =>
    simp [violations, count_repeatedAddress, count_repeated, count_serviceProblems_eq_zero]
  | repeatedProtocol protocol =>
    simp [violations, count_repeatedAddress_eq_zero, count_repeatedProtocol, count_repeated]
  | unknownScheduler protocol name => simp [violations, count_repeatedAddress_eq_zero, count_unknownScheduler]
  | fwmark => simp [violations, count_repeatedAddress_eq_zero, count_serviceProblems_eq_zero, ← UInt32.toNat_inj]
  | noAddress | interfaceName | routerId | priority | noPeer | noService | noSourceAddress | router | remark =>
    simp [violations, count_repeatedAddress_eq_zero, count_serviceProblems_eq_zero]

theorem acceptable_iff (spec : Spec) : spec.Acceptable ↔ ∀ problem, spec.violations problem = 0 := by
  constructor
  · intro acceptable problem
    cases problem with
    | noAddress => exact if_neg acceptable.addresses
    | repeatedAddress address => exact Nat.sub_eq_zero_of_le (List.nodup_iff_count.1 acceptable.distinct address)
    | interfaceName name => exact if_neg (fun bad => Bool.false_ne_true (bad.1.symm.trans acceptable.interface))
    | routerId given => exact if_neg (fun bad => bad.1 acceptable.routerId)
    | priority given => exact if_neg (fun bad => bad.1 acceptable.priority)
    | noPeer => exact if_neg acceptable.peers
    | fwmark => exact if_neg (Nat.ne_of_gt acceptable.fwmark)
    | noService => exact if_neg acceptable.services
    | repeatedProtocol protocol => exact Nat.sub_eq_zero_of_le (List.nodup_iff_count.1 acceptable.protocols protocol)
    | unknownScheduler protocol name =>
      simp only [violations, ite_eq_left_iff, List.count_eq_zero, List.mem_map, Prod.mk.injEq]
      rintro unknown ⟨declared, inside, -, rfl⟩
      exact unknown (acceptable.schedulers declared inside)
    | noSourceAddress | router | remark => rfl
  · intro none
    have never {condition : Prop} [Decidable condition] (zero : (if condition then 1 else 0) = 0) : ¬ condition := by
      simpa using zero
    have known (declared : Declared) (inside : declared ∈ spec.services) : Scheduler.IsKnown declared.scheduler := by
      by_contra unknown
      have zero := none (.unknownScheduler declared.protocol declared.scheduler)
      rw [violations, if_neg unknown, List.count_eq_zero] at zero
      exact zero (List.mem_map_of_mem inside)
    exact {
      addresses := never (none .noAddress)
      distinct := List.nodup_iff_count.2 (fun address => Nat.le_of_sub_eq_zero (none (.repeatedAddress address)))
      interface := by simpa using never (none (.interfaceName spec.interface))
      routerId := by simpa using never (none (.routerId spec.election.routerId))
      priority := by simpa using never (none (.priority spec.election.priority))
      peers := never (none .noPeer)
      fwmark := Nat.pos_of_ne_zero (never (none .fwmark))
      services := never (none .noService)
      protocols := List.nodup_iff_count.2 (fun protocol => Nat.le_of_sub_eq_zero (none (.repeatedProtocol protocol)))
      schedulers := known }

theorem problems_eq_nil_iff (spec : Spec) : spec.problems = [] ↔ spec.Acceptable := by
  rw [acceptable_iff, List.eq_nil_iff_forall_not_mem]
  refine forall_congr' (fun problem => ?_)
  rw [← count_problems, List.count_eq_zero]

end Spec

/-! ### What is kept -/

/-- A service that takes over what was declared, with the scheduler that was named. -/
structure Declared.Became (declared : Declared) (service : Service) : Prop where
  protocol : service.protocol = declared.protocol
  scheduler : service.scheduler.IsNamedBy declared.scheduler
  selector : service.selector = declared.selector
  weights : service.weights = declared.weights

theorem Declared.became_of_service? {declared : Declared} {service : Service}
    (taken : declared.service? = some service) : declared.Became service := by
  obtain ⟨scheduler, named, rfl⟩ := Option.map_eq_some_iff.1 taken
  exact ⟨rfl, Scheduler.ofName?_eq_some_iff.1 named, rfl, rfl⟩

theorem Declared.exists_service? {declared : Declared} (known : Scheduler.IsKnown declared.scheduler) :
    ∃ service, declared.service? = some service := by
  obtain ⟨scheduler, named⟩ := known
  exact ⟨_, by rw [Declared.service?, Scheduler.ofName?_eq_some_iff.2 named, Option.map_some]⟩

/-- Services whose schedulers exist are taken over one by one. -/
theorem forall₂_became {services : List Declared}
    (known : ∀ declared ∈ services, Scheduler.IsKnown declared.scheduler) :
    List.Forall₂ Declared.Became services (services.filterMap Declared.service?) := by
  induction services with
  | nil => exact .nil
  | cons declared rest ih =>
    obtain ⟨service, taken⟩ := Declared.exists_service? (known declared List.mem_cons_self)
    rw [List.filterMap_cons_some taken]
    exact .cons (Declared.became_of_service? taken) (ih (fun other inside => known other (List.mem_cons_of_mem _ inside)))

theorem map_protocol_of_became {services : List Declared} {taken : List Service}
    (became : List.Forall₂ Declared.Became services taken) :
    taken.map Service.protocol = services.map Declared.protocol := by
  induction became with
  | nil => rfl
  | cons head _ ih => rw [List.map_cons, List.map_cons, head.protocol, ih]

namespace Spec

/-- A result that has every value of a specification, its services in the strict order of their protocols. -/
structure Carries (spec : Spec) (result : Accepted) : Prop where
  addresses : result.addresses = spec.addresses
  interface : result.interface = spec.interface
  routerId : result.routerId.toNat = spec.election.routerId.toNat
  priority : result.priority.toNat = spec.election.priority.toNat
  peers : result.peers = spec.election.peers
  fwmark : result.fwmark = spec.fwmark
  services : ∃ arranged, arranged.Perm spec.services ∧ List.Forall₂ Declared.Became arranged result.services
  ascending : result.services.Pairwise (fun a b => Ranked.before a.protocol b.protocol = true)

theorem perm_inProtocolOrder (services : List Service) : (inProtocolOrder services).Perm services :=
  List.mergeSort_perm _ _

/-- Services of different protocols are put into strict order. -/
theorem ascending_inProtocolOrder {services : List Service} (once : (services.map Service.protocol).Nodup) :
    (inProtocolOrder services).Pairwise (fun a b => Ranked.before a.protocol b.protocol = true) := by
  have sorted : (inProtocolOrder services).Pairwise (fun a b => decide (a.protocol.rank ≤ b.protocol.rank) = true) := by
    apply List.pairwise_mergeSort
    · simp only [decide_eq_true_eq]
      exact fun _ _ _ => Nat.le_trans
    · simp only [Bool.or_eq_true, decide_eq_true_eq]
      exact fun _ _ => Nat.le_total _ _
  have apart : ((inProtocolOrder services).map Service.protocol).Nodup :=
    ((perm_inProtocolOrder services).map _).nodup_iff.2 once
  refine (sorted.and (List.pairwise_map.1 apart)).imp ?_
  rintro first second ⟨below, different⟩
  by_contra notBefore
  have notAfter : Ranked.before second.protocol first.protocol = false :=
    decide_eq_false (Nat.not_lt.2 (of_decide_eq_true below))
  exact different (Ranked.total (Bool.eq_false_iff.2 notBefore) notAfter)

theorem Acceptable.carries {spec : Spec} (acceptable : spec.Acceptable) : spec.Carries spec.accepted := by
  have became := forall₂_became acceptable.schedulers
  have narrow {number : UInt32} (small : number.toNat ≤ 255) : number.toUInt8.toNat = number.toNat := by
    rw [UInt32.toNat_toUInt8]
    omega
  refine ⟨rfl, rfl, narrow acceptable.routerId.2, narrow (by have := acceptable.priority.2; omega), rfl, rfl, ?_, ?_⟩
  · have taken := List.perm_comp_forall₂ (perm_inProtocolOrder _) became.flip
    obtain ⟨arranged, kept, perm⟩ := taken
    exact ⟨arranged, perm, kept.flip⟩
  · apply ascending_inProtocolOrder
    rw [map_protocol_of_became became]
    exact acceptable.protocols

theorem validate_eq_ok_iff {spec : Spec} {result : Accepted} :
    spec.validate = .ok result ↔ spec.Acceptable ∧ result = spec.accepted := by
  rw [validate, ← problems_eq_nil_iff]
  by_cases none : spec.problems = []
  · rw [if_pos (List.isEmpty_iff.2 none), Except.ok.injEq]
    exact ⟨fun same => ⟨none, same.symm⟩, fun both => both.2.symm⟩
  · rw [if_neg (fun empty => none (List.isEmpty_iff.1 empty))]
    exact iff_of_false (fun impossible => nomatch impossible) (fun both => none both.1)

/-- A specification is accepted just if it meets every condition, and then with all its values; of any other each
violation is reported once and nothing else is. -/
theorem validate_exact (spec : Spec) :
    match spec.validate with
    | .ok result => spec.Acceptable ∧ spec.Carries result
    | .error problems => ¬ spec.Acceptable ∧ ∀ problem, problems.count problem = spec.violations problem := by
  cases validated : spec.validate with
  | ok result =>
    obtain ⟨acceptable, rfl⟩ := validate_eq_ok_iff.1 validated
    exact ⟨acceptable, acceptable.carries⟩
  | error problems =>
    have same : spec.problems = problems := by
      unfold validate at validated
      split_ifs at validated
      exact Except.error.inj validated
    refine ⟨fun acceptable => ?_, fun problem => same ▸ count_problems spec problem⟩
    exact nomatch validated.symm.trans (validate_eq_ok_iff.2 ⟨acceptable, rfl⟩)

end Spec

end LoadBalancer

end VipKeeper
