import VipKeeper.Proofs.Net.Numerals
import VipKeeper.Proofs.Sync.Trigger
import VipKeeper.Proofs.Text.Encoding

/-! Versions that are filled in follow the edits of a file.

The version of a load balancer that names none is a digest of its specification and of its `uid`, whose texts are
digested one after the other. No text can reach into the next, because the byte that ends it is no byte of any text.
As long as digests do not collide, a new version so stands for an edit, and a controller takes every edit of its target
for what it is. -/

namespace VipKeeper

namespace LoadBalancer

/-! ### Digests and versions -/

variable {first second : LoadBalancer}

theorem terminator_notMem (text : String) : terminator ∉ text.toUTF8.toList := by
  intro inside
  rw [Text.toList_toUTF8] at inside
  exact Nat.lt_irrefl 255 (Text.lt_of_mem_encode inside)

theorem digested_inj : first.digested = second.digested ↔
    first.specText = second.specText ∧ first.uid = second.uid := by
  constructor
  · intro same
    have parts := List.append_cancel_right same
    have ⟨specs, _, uids⟩ :=
      (List.append_cons_inj_of_notMem (terminator_notMem _) (terminator_notMem _)).1 parts
    exact ⟨Text.toUTF8_injective specs, Text.toUTF8_injective uids⟩
  · rintro ⟨specs, uids⟩
    rw [digested, digested, specs, uids]

/-- The number whose digits are filled in as the version. -/
def digest (balancer : LoadBalancer) : UInt64 :=
  SipHash.digest ⟨1, 3⟩ 0 0 balancer.digested

theorem digitsValue_padded (count : Nat) (digits : List Char) :
    Address.digitsValue 16 (List.replicate count '0' ++ digits) = Address.digitsValue 16 digits := by
  induction count with
  | zero => rfl
  | succ count ih => exact ih

theorem digitsValue_contentVersion (balancer : LoadBalancer) :
    Address.digitsValue 16 balancer.contentVersion.toList = balancer.digest.toNat := by
  rw [contentVersion, String.toList_ofList, digitsValue_padded, ← digest,
    Address.digitsValue_toDigits (by decide) (by decide)]

theorem contentVersion_inj : first.contentVersion = second.contentVersion ↔ first.digest = second.digest := by
  constructor
  · intro same
    rw [← UInt64.toNat_inj, ← digitsValue_contentVersion, same, digitsValue_contentVersion]
  · intro same
    unfold digest at same
    rw [contentVersion, contentVersion, same]

theorem version_withVersion {balancer : LoadBalancer} (unnamed : balancer.version = "") :
    balancer.withVersion.version = balancer.contentVersion := by
  simp [withVersion, unnamed]

@[simp] theorem key_withVersion (balancer : LoadBalancer) : balancer.withVersion.key = balancer.key := by
  unfold withVersion
  split <;> rfl

@[simp] theorem uid_withVersion (balancer : LoadBalancer) : balancer.withVersion.uid = balancer.uid := by
  unfold withVersion
  split <;> rfl

@[simp] theorem spec_withVersion (balancer : LoadBalancer) : balancer.withVersion.spec = balancer.spec := by
  unfold withVersion
  split <;> rfl

/-- Versions that are filled in are the same only for one specification of one object, unless two specifications have
one text or two digests collide. -/
theorem version_withVersion_inj (unnamed : first.version = "") (unnamed' : second.version = "")
    (legible : first.specText = second.specText → first.spec = second.spec)
    (apart : first.digest = second.digest → first.digested = second.digested) :
    first.withVersion.version = second.withVersion.version ↔ first.spec = second.spec ∧ first.uid = second.uid := by
  rw [version_withVersion unnamed, version_withVersion unnamed', contentVersion_inj]
  constructor
  · intro same
    have ⟨specs, uids⟩ := digested_inj.1 (apart same)
    exact ⟨legible specs, uids⟩
  · rintro ⟨specs, uids⟩
    have texts : first.specText = second.specText := by rw [specText, specText, specs]
    rw [digest, digest, digested_inj.2 ⟨texts, uids⟩]

theorem withVersion_inj (unnamed : first.version = "") (unnamed' : second.version = "")
    (key : first.key = second.key) :
    first.withVersion = second.withVersion ↔ first.spec = second.spec ∧ first.uid = second.uid := by
  constructor
  · intro same
    have specs := congrArg LoadBalancer.spec same
    have uids := congrArg LoadBalancer.uid same
    simp only [spec_withVersion, uid_withVersion] at specs uids
    exact ⟨specs, uids⟩
  · rintro ⟨specs, uids⟩
    have same : first = second := by
      cases first
      cases second
      simp_all
    rw [same]

end LoadBalancer

/-- An update to another version is no resync. -/
theorem Sync.Controller.handle_update {controller : Controller} {before after : LoadBalancer}
    (aimed : after.key = controller.target) (moved : before.version ≠ after.version) :
    (controller.handle (.balancer (.updated before after))).1.trigger = some after.uid ∧
      (controller.handle (.balancer (.updated before after))).1.queue = (controller.queue.add controller.target).1 := by
  have concerns : Change.Concerns (.updated before after) controller.target := ⟨aimed, decide_eq_false moved⟩
  rw [handle_balancer, if_pos concerns]
  exact ⟨rfl, rfl⟩

namespace SourceDocument

open LoadBalancer

/-- A text declares one load balancer for a key and leaves its version out. -/
def Declares (text : String) (key : ObjectKey) (balancer : LoadBalancer) : Prop :=
  ∃ written, Yaml.decode? SourceDocument.read? text = some written ∧ written.named key = [balancer] ∧
    balancer.version = ""

theorem named_parse {text : String} {written document : SourceDocument}
    (decoded : Yaml.decode? SourceDocument.read? text = some written) (read : parse text = .ok document)
    (key : ObjectKey) : document.named key = (written.named key).map withVersion := by
  rw [parse, decoded] at read
  cases read
  rw [named, named, List.filter_map]
  simp [Function.comp_def]

theorem Declares.named {text : String} {key : ObjectKey} {balancer : LoadBalancer} {document : SourceDocument}
    (declares : Declares text key balancer) (read : parse text = .ok document) :
    document.named key = [balancer.withVersion] := by
  obtain ⟨written, decoded, alone, _⟩ := declares
  rw [named_parse decoded read, alone, List.map_singleton]

theorem Declares.key {text : String} {key : ObjectKey} {balancer : LoadBalancer}
    (declares : Declares text key balancer) : balancer.key = key := by
  obtain ⟨written, _, alone, _⟩ := declares
  exact key_of_named (alone ▸ List.mem_singleton_self balancer)

theorem Declares.unnamed {text : String} {key : ObjectKey} {balancer : LoadBalancer}
    (declares : Declares text key balancer) : balancer.version = "" := by
  obtain ⟨_, _, _, unnamed⟩ := declares
  exact unnamed

section

variable {oldText newText : String} {old new : SourceDocument} {key : ObjectKey} {before after : LoadBalancer}

theorem between?_edit (oldRead : parse oldText = .ok old) (newRead : parse newText = .ok new)
    (declared : Declares oldText key before) (edited : Declares newText key after) :
    Change.between? (old.byKey.get? key) (new.byKey.get? key) =
      if before.spec = after.spec ∧ before.uid = after.uid then none
      else some (.updated before.withVersion after.withVersion) := by
  have same := withVersion_inj declared.unnamed edited.unnamed (declared.key.trans edited.key.symm)
  rw [get?_byKey, get?_byKey, declared.named oldRead, edited.named newRead]
  simp only [List.getLast?_singleton, Change.between?, same]

/-- Of two texts that each declare one load balancer for a key and leave its version out, the versions that are filled
in differ exactly if the specification or the object does. Then, and only then, the difference of the documents has a
change for the key, the update, and a controller of the key that hears of it queues the key and knows the new object. -/
theorem edits_told (oldRead : parse oldText = .ok old) (newRead : parse newText = .ok new)
    (declared : Declares oldText key before) (edited : Declares newText key after)
    (legible : before.specText = after.specText → before.spec = after.spec)
    (apart : before.digest = after.digest → before.digested = after.digested) :
    old.named key = [before.withVersion] ∧ new.named key = [after.withVersion] ∧
      (before.withVersion.version = after.withVersion.version ↔
        before.spec = after.spec ∧ before.uid = after.uid) ∧
      (changes (old.diff new)).filter (fun change => decide (change.key = key)) =
        (if before.spec = after.spec ∧ before.uid = after.uid then []
        else [.updated before.withVersion after.withVersion]) ∧
      ∀ controller : Sync.Controller, controller.target = key → ∀ change, Event.balancer change ∈ old.diff new →
        change.key = key →
          change.isResync = false ∧ (controller.handle (.balancer change)).1.trigger = some after.uid ∧
            (controller.handle (.balancer change)).1.queue = (controller.queue.add key).1 ∧
            (controller.queue.closed = false → key ∈ (controller.handle (.balancer change)).1.queue.dirty) := by
  have versions := version_withVersion_inj declared.unnamed edited.unnamed legible apart
  have told := between?_edit oldRead newRead declared edited
  refine ⟨declared.named oldRead, edited.named newRead, versions, ?_, ?_⟩
  · rw [changes_of_key, told]
    split <;> rfl
  · rintro controller rfl change announced same
    rw [announced_iff, same, told] at announced
    split at announced
    next => cases announced
    next edit =>
      cases announced
      have moved : before.withVersion.version ≠ after.withVersion.version := mt versions.1 edit
      obtain ⟨trigger, queue⟩ := Sync.Controller.handle_update same moved
      refine ⟨decide_eq_false moved, by rw [trigger, uid_withVersion], queue, fun still => ?_⟩
      rw [queue, WorkQueue.mem_dirty_add]
      exact .inr ⟨rfl, still⟩

end

def declaration (interface : String) : String :=
  "loadBalancers: [\x7bmetadata: \x7bnamespace: a, name: b, uid: u\x7d, spec: \x7bvips: [], interface: " ++ interface ++
    ", vrrp: \x7bvirtualRouterId: 1\x7d\x7d\x7d]"

def declared (interface : String) : LoadBalancer :=
  ⟨⟨"a", "b"⟩, "u", "", ⟨[], interface, ⟨1, 100, none⟩, 1, []⟩⟩

def declarationTokens (interface : String) : List Yaml.Token :=
  let plain := Yaml.Token.scalar .plain
  [.blockMapping, .key, plain "loadBalancers", .value, .flowSequence,
    .flowMapping, .key, plain "metadata", .value,
    .flowMapping, .key, plain "namespace", .value, plain "a", .flowEntry, .key, plain "name", .value, plain "b",
    .flowEntry, .key, plain "uid", .value, plain "u", .flowMappingEnd, .flowEntry, .key, plain "spec", .value,
    .flowMapping, .key, plain "vips", .value, .flowSequence, .flowSequenceEnd,
    .flowEntry, .key, plain "interface", .value, plain interface, .flowEntry, .key, plain "vrrp", .value,
    .flowMapping, .key, plain "virtualRouterId", .value, plain "1", .flowMappingEnd,
    .flowMappingEnd, .flowMappingEnd, .flowSequenceEnd, .blockEnd]

theorem tokens_declaration :
    ∀ interface ∈ ["i", "j"], Yaml.tokens? (declaration interface) = some (declarationTokens interface) := by
  intro interface
  -- Decoding takes time quadratic in the length of a text, so each of the three parts is decoded alone.
  have chars : (declaration interface).toList = _ :=
    String.toList_append.trans (congrArg (· ++ _) String.toList_append)
  rw [Yaml.tokens?, Yaml.spots?, chars]
  clear chars
  revert interface
  decide +kernel

theorem decode_declaration {interface : String} (inside : interface ∈ ["i", "j"]) :
    Yaml.decode? SourceDocument.read? (declaration interface) = some ⟨[declared interface], .empty⟩ := by
  rw [Yaml.decode?, Yaml.root?, tokens_declaration interface inside]
  -- The nodes are read by well-founded recursion, which is unfolded step by step.
  simp [declarationTokens, Yaml.readRoot, Yaml.standardHandles, Yaml.deepest, Yaml.Node.read, Yaml.Node.readPairs,
    Yaml.Node.readBlockValue, Yaml.Node.readFlowItem, Yaml.Node.readFlowItems, Yaml.Node.readFlowPair,
    Yaml.Node.readFlowPairs, Yaml.Node.readFlowValue, Yaml.Node.readProperties, Yaml.Node.readAnchor,
    Yaml.Node.readTag, Yaml.Node.endsPair, Yaml.Node.endsFlow, Yaml.Node.scalarTag]
  rfl

theorem declares_declaration {interface : String} (inside : interface ∈ ["i", "j"]) :
    Declares (declaration interface) ⟨"a", "b"⟩ (declared interface) :=
  ⟨_, decode_declaration inside, rfl, rfl⟩

theorem parse_declaration {interface : String} (inside : interface ∈ ["i", "j"]) :
    parse (declaration interface) = .ok ⟨[(declared interface).withVersion], .empty⟩ := by
  rw [parse, decode_declaration inside]
  rfl

/-- The load balancer moves to another interface. -/
theorem edits_told_interface :
    let update := Change.updated (declared "i").withVersion (declared "j").withVersion
    ∃ old new, parse (declaration "i") = .ok old ∧ parse (declaration "j") = .ok new ∧
      Event.balancer update ∈ old.diff new ∧
      ((Sync.Controller.start ⟨"a", "b"⟩).handle (.balancer update)).1.trigger = some "u" ∧
      ⟨"a", "b"⟩ ∈ ((Sync.Controller.start ⟨"a", "b"⟩).handle (.balancer update)).1.queue.dirty := by
  intro update
  have first : parse (declaration "i") = _ := parse_declaration (by simp)
  have second : parse (declaration "j") = _ := parse_declaration (by simp)
  have moved : ¬ ((declared "i").spec = (declared "j").spec ∧ (declared "i").uid = (declared "j").uid) := by decide
  have legible : (declared "i").specText ≠ (declared "j").specText := by decide +kernel
  have apart : (declared "i").digest ≠ (declared "j").digest := by
    simp only [digest, digested, Text.toList_bytes]
    decide +kernel
  obtain ⟨_, _, _, told, hears⟩ := edits_told first second (declares_declaration (by simp))
    (declares_declaration (by simp)) (fun same => absurd same legible) (fun same => absurd same apart)
  rw [if_neg moved] at told
  have announced : Event.balancer update ∈ SourceDocument.diff _ _ :=
    mem_changes.1 (List.mem_of_mem_filter (told ▸ List.mem_singleton_self update))
  obtain ⟨_, trigger, _, queued⟩ := hears (.start ⟨"a", "b"⟩) rfl update announced rfl
  exact ⟨_, _, first, second, announced, trigger, queued rfl⟩

end SourceDocument

end VipKeeper
