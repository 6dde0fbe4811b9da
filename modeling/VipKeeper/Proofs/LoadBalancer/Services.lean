import VipKeeper.LoadBalancer.Resolution
import VipKeeper.Proofs.Lists
import VipKeeper.Proofs.LoadBalancer.Acceptance

/-! The services of a specification without problems: each protocol is declared once, and each service comes to one
virtual server, TCP before UDP. -/

namespace VipKeeper

/-- A table by protocol holds at most two values, that of TCP first. -/
theorem Protocol.values_eq {ν : Type} (table : OrderedMap Protocol ν) :
    table.entries.map Prod.snd = (table.get? .tcp).toList ++ (table.get? .udp).toList := by
  have halves (entries : List (Protocol × ν)) (ordered : entries.Pairwise (fun a b => Ranked.before a.1 b.1 = true)) :
      entries = entries.filter (fun entry => decide (entry.1 = .tcp)) ++
        entries.filter (fun entry => decide (entry.1 = .udp)) := by
    induction entries with
    | nil => rfl
    | cons head rest ih =>
      obtain ⟨above, later⟩ := List.pairwise_cons.1 ordered
      obtain ⟨protocol, value⟩ := head
      cases protocol with
      | tcp => simpa using ih later
      | udp =>
        -- Nothing comes after UDP.
        have last : rest = [] := by
          apply List.eq_nil_iff_forall_not_mem.2
          rintro ⟨protocol, other⟩ inside
          have beyond : Ranked.before Protocol.udp protocol = true := above _ inside
          cases protocol <;> revert beyond <;> decide
        simp [last]
  have parts := congrArg (List.map Prod.snd) (halves table.entries table.ordered)
  rw [table.filter_entries, table.filter_entries, List.map_append] at parts
  simpa [Function.comp_def] using parts

namespace LoadBalancer

namespace Spec

/-- What acceptance says of the numbers and services of a specification. -/
structure Sound (spec : Spec) : Prop where
  routerId : spec.election.routerId ≤ 255
  priority : spec.election.priority ≤ 254
  once : (spec.services.map Declared.protocol).Nodup
  known : ∀ declared ∈ spec.services, ∃ service, declared.service? = some service

theorem Acceptable.sound {spec : Spec} (acceptable : spec.Acceptable) : spec.Sound :=
  ⟨UInt32.le_iff_toNat_le.2 acceptable.routerId.2, UInt32.le_iff_toNat_le.2 acceptable.priority.2, acceptable.protocols,
    fun declared inside => Declared.exists_service? (acceptable.schedulers declared inside)⟩

/-- The services that are declared for a protocol. -/
def declaredFor (spec : Spec) (protocol : Protocol) : List Declared :=
  spec.services.filter (fun declared => decide (declared.protocol = protocol))

theorem Sound.length_declaredFor {spec : Spec} (sound : spec.Sound) (protocol : Protocol) :
    (spec.declaredFor protocol).length ≤ 1 := by
  have count := List.nodup_iff_count.1 sound.once protocol
  rw [List.count, List.countP_map, List.countP_eq_length_filter] at count
  have same : (fun declared : Declared => decide (declared.protocol = protocol)) =
      (fun key => key == protocol) ∘ Declared.protocol := by
    funext declared
    rw [Function.comp_apply, beq_eq_decide]
  rw [declaredFor, same]
  exact count

/-- The accepted services of a protocol are those that are declared for it. -/
theorem Sound.services_eq {spec : Spec} (sound : spec.Sound) (protocol : Protocol) :
    spec.accepted.services.filter (fun service => decide (service.protocol = protocol)) =
      (spec.declaredFor protocol).filterMap Declared.service? := by
  have same : (spec.services.filterMap Declared.service?).filter (fun service => decide (service.protocol = protocol)) =
      (spec.declaredFor protocol).filterMap Declared.service? := by
    rw [declaredFor, List.filter_filterMap, List.filterMap_filter]
    apply List.filterMap_congr
    intro declared _
    cases known : declared.service? with
    | none => simp
    | some service => simp [Option.filter, (Declared.became_of_service? known).protocol]
  have sorted : (spec.accepted.services.filter (fun service => decide (service.protocol = protocol))).Perm
      ((spec.declaredFor protocol).filterMap Declared.service?) := by
    rw [← same]
    exact (List.mergeSort_perm _ _).filter _
  have few := Nat.le_trans (List.length_filterMap_le Declared.service? _) (sound.length_declaredFor protocol)
  exact eq_of_perm_of_short sorted few

/-- The virtual servers are those of the declared services, that of TCP first. -/
theorem Sound.virtualServers_eq {spec : Spec} (sound : spec.Sound) (membership : Membership) :
    spec.accepted.virtualServers membership = [Protocol.tcp, .udp].flatMap (fun protocol =>
      ((spec.declaredFor protocol).filterMap Declared.service?).map (spec.accepted.virtualServer membership)) := by
  have found (protocol : Protocol) : ((OrderedMap.ofList (spec.accepted.services.map (fun service =>
      (service.protocol, spec.accepted.virtualServer membership service)))).get? protocol).toList =
        ((spec.declaredFor protocol).filterMap Declared.service?).map (spec.accepted.virtualServer membership) := by
    have few := Nat.le_trans (List.length_filterMap_le Declared.service? _) (sound.length_declaredFor protocol)
    rw [OrderedMap.get?_ofList, List.filter_map]
    simp only [Function.comp_def, sound.services_eq protocol]
    generalize (spec.declaredFor protocol).filterMap Declared.service? = services at few
    match services, few with
    | [], _ => rfl
    | [_], _ => rfl
  rw [Accepted.virtualServers, Protocol.values_eq, found, found]
  simp

end Spec

end LoadBalancer

end VipKeeper
