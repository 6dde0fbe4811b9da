import Mathlib.Data.List.Basic
import VipKeeper.Proofs.Artifact.Legible

/-! A configuration tells everything that it was compiled from, but for the fractions of a second between
advertisements. -/

namespace VipKeeper

/-- Instances that differ at most in the interval between advertisements. -/
structure Instance.Agrees (router other : Instance) : Prop where
  name : router.name = other.name
  routerId : router.routerId = other.routerId
  priority : router.priority = other.priority
  interface : router.interface = other.interface
  addresses : router.addresses = other.addresses
  unicast : router.unicast = other.unicast

theorem Instance.Agrees.eq {router other : Instance} (agrees : router.Agrees other)
    (interval : router.advertInterval = other.advertInterval) : router = other := by
  obtain ⟨name, routerId, priority, interface, addresses, unicast⟩ := agrees
  cases router
  cases other
  simp_all

namespace Artifact

theorem number_inj {n m : Nat} (same : toString n = toString m) : n = m := by
  rw [Nat.toString_eq_ofList_toDigits, Nat.toString_eq_ofList_toDigits, String.ofList_inj] at same
  have values := congrArg (Address.digitsValue 10) same
  rwa [Address.digitsValue_toDigits (by decide) (by decide), Address.digitsValue_toDigits (by decide) (by decide)]
    at values

theorem setting_injective (keyword : String) : Function.Injective (setting keyword) := by
  intro n m same
  have words := Item.statement.inj same
  exact number_inj ((String.append_right_inj _).1 words)

theorem addressList_injective : Function.Injective addressList := by
  refine List.map_injective_iff.2 ?_
  intro first second same
  exact Address.text_injective (Item.statement.inj same)

/-- Election by unicast shows in the number of statements. -/
theorem unicastItems_append {unicast other : Option Unicast} {last last' : Item}
    (same : unicastItems unicast ++ [last] = unicastItems other ++ [last']) : unicast = other ∧ last = last' := by
  cases unicast with
  | none =>
    cases other with
    | none => simpa [unicastItems] using same
    | some other => simp [unicastItems] at same
  | some unicast =>
    cases other with
    | none => simp [unicastItems] at same
    | some other =>
      simp only [unicastItems, List.cons_append, List.nil_append, List.cons.injEq, Item.statement.injEq,
        Item.block.injEq, String.append_right_inj, true_and, and_true] at same
      obtain ⟨source, peers, last⟩ := same
      have sources := Address.text_injective source
      have others := addressList_injective peers
      cases unicast
      cases other
      simp_all

theorem agrees_of_instanceBlock {router other : Instance} (same : instanceBlock router = instanceBlock other) :
    router.Agrees other := by
  simp only [instanceBlock, List.cons_append, List.nil_append, Item.block.injEq, List.cons.injEq,
    Item.statement.injEq, String.append_right_inj, true_and, and_true] at same
  obtain ⟨name, interface, routerId, priority, -, -, rest⟩ := same
  obtain ⟨unicast, last⟩ := unicastItems_append rest
  have addresses := addressList_injective (Item.block.inj last).2
  exact ⟨name, UInt8.toNat_inj.1 (setting_injective _ routerId), UInt8.toNat_inj.1 (setting_injective _ priority),
    interface, addresses, unicast⟩

theorem not_mem_number (n : Nat) : ' ' ∉ (toString n).toList := by
  rw [Nat.toString_eq_ofList_toDigits, String.toList_ofList]
  exact fun inside => absurd (Address.isDigit_of_mem_toDigits (by decide) (by decide) inside) (by decide)

theorem realServerBlock_injective : Function.Injective realServerBlock := by
  intro server other same
  simp only [realServerBlock, Item.block.injEq, List.cons.injEq, and_true] at same
  obtain ⟨header, weight⟩ := same
  have letters := congrArg String.toList header
  simp only [String.toList_append, Address.text, String.toList_ofList, List.append_assoc] at letters
  have parts := (List.append_cons_inj_of_notMem (server.address.not_mem_chars (by decide)) (not_mem_number server.port.toNat)).1
    (List.append_cancel_left letters)
  obtain ⟨address, -, port⟩ := parts
  have addresses : server.address = other.address := Address.text_injective (congrArg String.ofList address)
  have ports := UInt16.toNat_inj.1 (number_inj (String.toList_inj.1 port))
  have weights := UInt32.toNat_inj.1 (setting_injective _ weight)
  cases server
  cases other
  simp_all

/-- Blocks with a blank line before each are told apart if the blocks are. -/
theorem spaced_injective {α : Type} {block : α → Item} (injective : Function.Injective block) :
    Function.Injective (fun values : List α => values.flatMap (fun value => [.gap, block value])) := by
  intro values
  induction values with
  | nil =>
    intro others same
    cases others with
    | nil => rfl
    | cons => cases same
  | cons value rest ih =>
    intro others same
    cases others with
    | nil => cases same
    | cons other later =>
      simp only [List.flatMap_cons, List.cons_append, List.nil_append, List.cons.injEq, true_and] at same
      rw [injective same.1, ih same.2]

theorem scheduler_inj {scheduler other : Scheduler} (same : scheduler.name = other.name) : scheduler = other := by
  cases scheduler <;> cases other <;> first | rfl | exact absurd same (by decide)

theorem protocol_inj {protocol other : Protocol} (same : protocol.name = other.name) : protocol = other := by
  cases protocol <;> cases other <;> first | rfl | exact absurd same (by decide)

theorem virtualServerBlock_injective : Function.Injective virtualServerBlock := by
  intro server other same
  simp only [virtualServerBlock, List.cons_append, List.nil_append, Item.block.injEq, List.cons.injEq,
    Item.statement.injEq, String.append_right_inj, true_and] at same
  obtain ⟨mark, scheduler, protocol, servers⟩ := same
  have marks := UInt32.toNat_inj.1 (number_inj mark)
  have schedulers := scheduler_inj scheduler
  have protocols := protocol_inj protocol
  have reals := spaced_injective realServerBlock_injective servers
  cases server
  cases other
  simp_all

theorem items_inj {reportPath reportPath' : Option String} {router router' : Instance}
    {servers servers' : List VirtualServer}
    (same : items reportPath router servers = items reportPath' router' servers') :
    reportPath = reportPath' ∧ router.Agrees router' ∧ servers = servers' := by
  have apart (router : Instance) (inner : List Item) : instanceBlock router ≠ .block "global_defs" inner := by
    intro same
    have header := congrArg String.toList (Item.block.inj same).1
    simp at header
  have rest {router router' : Instance} (same : items none router servers = items none router' servers') :
      router.Agrees router' ∧ servers = servers' := by
    obtain ⟨block, blocks⟩ := List.cons.inj same
    exact ⟨agrees_of_instanceBlock block, spaced_injective virtualServerBlock_injective blocks⟩
  cases reportPath with
  | none =>
    cases reportPath' with
    | none => exact ⟨rfl, rest same⟩
    | some path' => exact absurd (List.cons.inj same).1 (apart _ _)
  | some path =>
    cases reportPath' with
    | none => exact absurd (List.cons.inj same).1.symm (apart _ _)
    | some path' =>
      simp only [items, reportItems, List.cons_append, List.nil_append, List.cons.injEq, Item.block.injEq,
        Item.statement.injEq, String.append_right_inj, true_and, and_true] at same
      exact ⟨congrArg some same.1, rest (List.cons_eq_cons.2 same.2)⟩

/-- Configurations with the same text were compiled from the same. -/
theorem compile_inj {reportPath reportPath' : Option String} {router router' : Instance}
    {servers servers' : List VirtualServer} (proper : Proper reportPath router) (proper' : Proper reportPath' router')
    (same : compile reportPath router servers = compile reportPath' router' servers') :
    reportPath = reportPath' ∧ router.Agrees router' ∧ servers = servers' :=
  items_inj (Item.render_injective (allPlain_items proper servers) (allPlain_items proper' servers') same)

end Artifact

end VipKeeper
