import Mathlib.Data.List.Basic
import VipKeeper.Neighbor.Message

/-! The entry that a message of the kernel describes.

A message lists its attributes in any order, and may repeat them. Of the destinations the last one that is an IP address
counts, and of the link-layer addresses the last one that has as many bytes as an Ethernet address. -/

namespace VipKeeper.Neighbor

namespace Attribute

/-- A link-layer address that is an Ethernet address. -/
def ethernet (hardware : Hardware) : Attribute :=
  .linkLayer hardware.toList

def destination? : Attribute → Option Address
  | .destination address => some address
  | _ => none

def hardware? : Attribute → Option Hardware
  | .linkLayer bytes => Hardware.ofBytes? bytes
  | _ => none

/-- Whether an entry is made of such attributes. -/
def matters : Attribute → Bool
  | .destination _ => true
  | .linkLayer bytes => bytes.length == 6
  | .otherDestination _ | .probes _ | .other _ _ => false

/-- The last attribute of a form has a certain value. -/
def Last {β : Type} (form : β → Attribute) (value : β) (items : List Attribute) : Prop :=
  ∃ before after, items = before ++ form value :: after ∧ ∀ other, form other ∉ after

theorem destination?_eq_some_iff (item : Attribute) (address : Address) :
    item.destination? = some address ↔ item = .destination address := by
  cases item <;> simp [destination?]

theorem hardware?_eq_some_iff (item : Attribute) (hardware : Hardware) :
    item.hardware? = some hardware ↔ item = ethernet hardware := by
  cases item with
  | linkLayer bytes =>
    simp only [hardware?, Hardware.ofBytes?, ethernet, Attribute.linkLayer.injEq]
    split
    next six =>
      rw [Option.some.injEq, ← Vector.toList_inj]
      rfl
    next other =>
      apply iff_of_false (by simp)
      intro same
      rw [same] at other
      exact other hardware.length_toList
  | _ => simp [hardware?, ethernet]

section

variable {β : Type} {gives : Attribute → Option β} {form : β → Attribute} {items : List Attribute}

theorem last_of_getLast? (iff : ∀ item value, gives item = some value ↔ item = form value) {value : β}
    (found : (items.filterMap gives).getLast? = some value) : Last form value items := by
  rw [List.getLast?_filterMap, List.findSome?_eq_some_iff] at found
  obtain ⟨after, item, before, split, given, silent⟩ := found
  refine ⟨before.reverse, after.reverse, ?_, ?_⟩
  · rw [← List.reverse_reverse items, split, (iff item value).1 given]
    simp
  · intro other inside
    have given := (iff _ other).2 rfl
    rw [silent _ (List.mem_reverse.1 inside)] at given
    cases given

theorem getLast?_eq_none_iff (iff : ∀ item value, gives item = some value ↔ item = form value) :
    (items.filterMap gives).getLast? = none ↔ ∀ value, form value ∉ items := by
  rw [List.getLast?_eq_none_iff, List.filterMap_eq_nil_iff]
  constructor
  · intro silent value inside
    have given := (iff _ value).2 rfl
    rw [silent _ inside] at given
    cases given
  · intro missing item inside
    rw [Option.eq_none_iff_forall_ne_some]
    intro value given
    exact missing value ((iff item value).1 given ▸ inside)

/-- What does not matter gives nothing. -/
theorem filterMap_matters (needs : ∀ item, item.matters = false → gives item = none) (items : List Attribute) :
    (items.filter matters).filterMap gives = items.filterMap gives := by
  rw [List.filterMap_filter]
  apply List.filterMap_congr
  intro item _
  cases heeded : item.matters with
  | true => rfl
  | false => exact (needs item heeded).symm

end

/-- Who goes through a list and keeps the latest value ends with the last one. -/
theorem foldl_latest {β : Type} (gives : Attribute → Option β) (start : β) (items : List Attribute) :
    items.foldl (fun latest item => (gives item).getD latest) start = (items.filterMap gives).getLastD start := by
  induction items generalizing start with
  | nil => rfl
  | cons item rest ih =>
    rw [List.foldl_cons, ih, List.filterMap_cons]
    cases gives item with
    | none => rfl
    | some value => exact List.getLastD_cons.symm

end Attribute

namespace Message

theorem hardware_eq (attributes : List Attribute) :
    hardware attributes = (attributes.filterMap Attribute.hardware?).getLastD Hardware.zero := by
  rw [← Attribute.foldl_latest]
  unfold hardware
  congr
  funext last item
  cases item <;> rfl

theorem destination?_eq (attributes : List Attribute) :
    destination? attributes = (attributes.filterMap Attribute.destination?).getLast? := by
  calc
    destination? attributes = attributes.foldl (fun last item => (item.destination?.map some).getD last) none := by
      unfold destination?
      congr
      funext last item
      cases item <;> rfl
    _ = (attributes.filterMap (fun item => item.destination?.map some)).getLastD none := Attribute.foldl_latest _ _ _
    _ = ((attributes.filterMap Attribute.destination?).map some).getLastD none := by rw [List.map_filterMap]
    _ = (attributes.filterMap Attribute.destination?).getLast? := by
      rw [List.getLastD_eq_getLast?, List.getLast?_map]
      cases (attributes.filterMap Attribute.destination?).getLast? <;> rfl

/-- A message is about an IP address. -/
structure Locates (message : Message) : Prop where
  family : message.family = 2 ∨ message.family = 10
  destination : ∃ address, .destination address ∈ message.attributes

/-- An entry is the one that a message describes, on a device of a given name. -/
structure Describes (message : Message) (device : String) (entry : Entry) : Prop where
  address : Attribute.Last .destination entry.address message.attributes
  hardware : Attribute.Last Attribute.ethernet entry.hardware message.attributes ∨
    entry.hardware = Hardware.zero ∧ ∀ hardware, Attribute.ethernet hardware ∉ message.attributes
  resolution : entry.resolution = resolution message.state
  device : entry.device = device

variable {σ : Type}

/-- Names of devices come from somewhere that may change when it is asked; the numbers asked for are written down. -/
def asking (device : Nat → StateM σ (Option String)) (interface : Nat) : StateM (σ × List Nat) (Option String) :=
  fun (reconciler, asked) =>
    let (name, reconciler) := (device interface).run reconciler
    (name, reconciler, asked ++ [interface])

/-- What comes of a message, with what was asked for it. -/
inductive Read (device : Nat → StateM σ (Option String)) (message : Message) (reconciler : σ) (asked : List Nat) :
    Option Entry × σ × List Nat → Prop where
  | unusable (apart : ¬ message.Locates) : Read device message reconciler asked (none, reconciler, asked)
  | nameless (locates : message.Locates) (later : σ)
      (answer : (device message.interface).run reconciler = (none, later)) :
      Read device message reconciler asked (none, later, asked ++ [message.interface])
  | listed (locates : message.Locates) (name : String) (later : σ)
      (answer : (device message.interface).run reconciler = (some name, later)) (entry : Entry)
      (describes : message.Describes name entry) :
      Read device message reconciler asked (some entry, later, asked ++ [message.interface])

theorem isIpFamily_iff (family : Nat) : isIpFamily family = true ↔ family = 2 ∨ family = 10 := by
  simp [isIpFamily]

theorem destination?_eq_none_iff (attributes : List Attribute) :
    destination? attributes = none ↔ ∀ address, .destination address ∉ attributes := by
  rw [destination?_eq]
  exact Attribute.getLast?_eq_none_iff Attribute.destination?_eq_some_iff

theorem last_of_destination? {attributes : List Attribute} {address : Address}
    (found : destination? attributes = some address) : Attribute.Last .destination address attributes := by
  rw [destination?_eq] at found
  exact Attribute.last_of_getLast? Attribute.destination?_eq_some_iff found

theorem last_hardware (attributes : List Attribute) :
    Attribute.Last Attribute.ethernet (hardware attributes) attributes ∨
      hardware attributes = Hardware.zero ∧ ∀ hardware, Attribute.ethernet hardware ∉ attributes := by
  rw [hardware_eq, List.getLastD_eq_getLast?]
  cases found : (attributes.filterMap Attribute.hardware?).getLast? with
  | none => exact .inr ⟨rfl, (Attribute.getLast?_eq_none_iff Attribute.hardware?_eq_some_iff).1 found⟩
  | some hardware => exact .inl (Attribute.last_of_getLast? Attribute.hardware?_eq_some_iff found)

theorem read_entry? (device : Nat → StateM σ (Option String)) (message : Message) (reconciler : σ) (asked : List Nat) :
    Read device message reconciler asked ((message.entry? (asking device)).run (reconciler, asked)) := by
  unfold entry?
  by_cases family : isIpFamily message.family = true
  · rw [if_pos family]
    have internet := (isIpFamily_iff message.family).1 family
    cases found : destination? message.attributes with
    | none =>
      apply Read.unusable
      intro locates
      obtain ⟨address, inside⟩ := locates.destination
      exact (destination?_eq_none_iff message.attributes).1 found address inside
    | some address =>
      have last := last_of_destination? found
      obtain ⟨before, after, split, -⟩ := id last
      have locates : message.Locates := ⟨internet, address, split ▸ by simp⟩
      cases answer : (device message.interface).run reconciler with
      | mk name later =>
        have asks : (asking device message.interface).run (reconciler, asked) =
            (name, later, asked ++ [message.interface]) := by
          show (((device message.interface).run reconciler).1, ((device message.interface).run reconciler).2, _) = _
          rw [answer]
        simp only [StateT.run_bind, asks]
        cases name with
        | none => exact .nameless locates later answer
        | some name => exact .listed locates name later answer _ ⟨last, last_hardware message.attributes, rfl, rfl⟩
  · rw [if_neg family]
    apply Read.unusable
    intro locates
    exact family ((isIpFamily_iff message.family).2 locates.family)

/-- Only what matters of the attributes makes a difference, to the entry and to what is asked. -/
theorem entry?_congr {m : Type → Type} [Monad m] (device : Nat → m (Option String)) (message : Message)
    {attributes : List Attribute}
    (same : attributes.filter Attribute.matters = message.attributes.filter Attribute.matters) :
    entry? device { message with attributes := attributes } = message.entry? device := by
  have located : destination? attributes = destination? message.attributes := by
    have needs (item : Attribute) (other : item.matters = false) : item.destination? = none := by
      cases item <;> simp_all [Attribute.matters, Attribute.destination?]
    rw [destination?_eq, destination?_eq, ← Attribute.filterMap_matters needs, same, Attribute.filterMap_matters needs]
  have linked : hardware attributes = hardware message.attributes := by
    have needs (item : Attribute) (other : item.matters = false) : item.hardware? = none := by
      cases item <;> simp_all [Attribute.matters, Attribute.hardware?, Hardware.ofBytes?]
    rw [hardware_eq, hardware_eq, ← Attribute.filterMap_matters needs, same, Attribute.filterMap_matters needs]
  unfold entry?
  rw [located, linked]

/-- A message gives an entry exactly if it is about an IP address and its device has a name. The entry has the last
address and the last Ethernet address of the message; the name is asked for once at most, when the rest is known to
be there. Attributes of other kinds and of other lengths may come and go. -/
theorem entry_of_last_attributes (device : Nat → StateM σ (Option String)) (message : Message) (reconciler : σ)
    (asked : List Nat) :
    Read device message reconciler asked ((message.entry? (asking device)).run (reconciler, asked)) ∧
      (((message.entry? (asking device)).run (reconciler, asked)).1.isSome = true ↔
        (message.family = 2 ∨ message.family = 10) ∧ (∃ address, .destination address ∈ message.attributes) ∧
          ((device message.interface).run reconciler).1.isSome = true) ∧
      ∀ attributes : List Attribute,
        attributes.filter Attribute.matters = message.attributes.filter Attribute.matters →
          ∀ (m : Type → Type) [Monad m] (device : Nat → m (Option String)),
            entry? device { message with attributes := attributes } = message.entry? device := by
  have read := read_entry? device message reconciler asked
  refine ⟨read, ?_, fun attributes same m _ device => entry?_congr device message same⟩
  generalize (message.entry? (asking device)).run (reconciler, asked) = result at read ⊢
  cases read with
  | unusable apart =>
    apply iff_of_false (by simp)
    intro all
    exact apart ⟨all.1, all.2.1⟩
  | nameless locates later answer => simp [answer]
  | listed locates name later answer entry describes => simp [answer, locates.family, locates.destination]

/-- The destination is given twice, and the second link-layer address is one of twenty bytes. -/
def crowded : Message where
  family := 10
  state := 64
  interface := 3
  attributes := [.linkLayer [0x52, 0x54, 0, 0x12, 0x34, 0x56], .probes 3, .destination (.v4 10 0 0 5),
    .otherDestination [1, 2, 3], .destination (.v4 10 0 0 9), .linkLayer (List.replicate 20 0x80), .other 6 [0, 0]]

theorem entry_of_last_attributes_crowded :
    let device (interface : Nat) : StateM Unit (Option String) := pure (if interface = 3 then some "eth0" else none)
    let few : List Attribute :=
      [.linkLayer [0x52, 0x54, 0, 0x12, 0x34, 0x56], .destination (.v4 10 0 0 5), .destination (.v4 10 0 0 9)]
    few.filter Attribute.matters = crowded.attributes.filter Attribute.matters ∧
      entry? (asking device) { crowded with attributes := few } = crowded.entry? (asking device) ∧
      (crowded.entry? (asking device)).run ((), []) =
        (some ⟨.v4 10 0 0 9, #v[0x52, 0x54, 0, 0x12, 0x34, 0x56], .permanent, "eth0"⟩, (), [3]) := by
  intro device few
  have same : few.filter Attribute.matters = crowded.attributes.filter Attribute.matters := rfl
  exact ⟨same, (entry_of_last_attributes device crowded () []).2.2 few same _ (asking device), rfl⟩

end Message

end VipKeeper.Neighbor
