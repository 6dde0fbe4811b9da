import VipKeeper.Proofs.Document.Spelling

/-! Load balancers, memberships and nodes in documents: every way in which each of them can be written, and the one way
in which it is written. -/

namespace VipKeeper

open Spelling

/-- A protocol is named in capitals or in lower case, and an alternative without content may stand as a record. -/
def Protocol.spelled : Spelling Protocol :=
  fun value protocol => ∃ name, (value = .text name ∨ value = .record [(name, .null)]) ∧
    match protocol with
    | .tcp => name = "TCP" ∨ name = "tcp"
    | .udp => name = "UDP" ∨ name = "udp"

namespace LoadBalancer

def labelsSpelled : Spelling (OrderedMap String String) :=
  table text text

def Declared.spelled : Spelling Declared :=
  fun value service => ∃ member,
    record [.named "protocol", .named "scheduler", .named "backendSelector", .named "weights"] value member ∧
    given Protocol.spelled (member "protocol") service.protocol ∧
    given text (member "scheduler") service.scheduler ∧
    givenOr .empty labelsSpelled (member "backendSelector") service.selector ∧
    givenOr .empty (table address word) (member "weights") service.weights

def Election.spelled : Spelling Election :=
  fun value election => ∃ member,
    record [.named "virtualRouterId", .named "priority", .named "unicastPeers"] value member ∧
    given word (member "virtualRouterId") election.routerId ∧
    givenOr 100 word (member "priority") election.priority ∧
    givenOr none (optional (list address)) (member "unicastPeers") election.peers

def Spec.spelled : Spelling Spec :=
  fun value spec => ∃ member,
    record [⟨"vips", ["virtualIPs"]⟩, .named "interface", .named "vrrp", .named "fwmark", .named "virtualServers"] value
      member ∧
    given (list address) (member "vips") spec.addresses ∧
    given text (member "interface") spec.interface ∧
    given Election.spelled (member "vrrp") spec.election ∧
    givenOr 1 word (member "fwmark") spec.fwmark ∧
    givenOr [] (list Declared.spelled) (member "virtualServers") spec.services

/-- What the metadata of a load balancer tell; they are no thing of their own. -/
def metadataSpelled : Spelling LoadBalancer :=
  fun value balancer => ∃ member,
    record [.named "namespace", .named "name", .named "uid", .named "resourceVersion"] value member ∧
    given text (member "namespace") balancer.key.scope ∧
    given text (member "name") balancer.key.name ∧
    given text (member "uid") balancer.uid ∧
    givenOr "" text (member "resourceVersion") balancer.version

def spelled : Spelling LoadBalancer :=
  fun value balancer => ∃ member,
    record [.named "metadata", .named "spec"] value member ∧
    given metadataSpelled (member "metadata") balancer ∧
    given Spec.spelled (member "spec") balancer.spec

end LoadBalancer

def Node.spelled : Spelling Node :=
  fun value node => ∃ member,
    record [.named "name", .named "address", .named "ready", .named "labels"] value member ∧
    given text (member "name") node.name ∧
    given Spelling.address (member "address") node.address ∧
    given flag (member "ready") node.ready ∧
    givenOr .empty LoadBalancer.labelsSpelled (member "labels") node.labels

def Membership.spelled : Spelling Membership :=
  fun value membership => ∃ member,
    record [.named "nodes"] value member ∧
    givenOr [] (list Node.spelled) (member "nodes") membership.nodes

/-! ### Reading -/

theorem Protocol.readBy : Protocol.spelled.ReadBy (Protocol.read? Value.format) := by
  intro value protocol
  have named (name : String) : ofName? name = some protocol ↔
      match protocol with
      | .tcp => name = "TCP" ∨ name = "tcp"
      | .udp => name = "UDP" ∨ name = "udp" := by
    unfold ofName?
    cases protocol <;> split <;> simp_all
  have variant (name : String) : Value.format.variant? value = some name ↔
      value = .text name ∨ value = .record [(name, .null)] := by
    show value.variant? = some name ↔ _
    unfold Value.variant?
    split <;> simp_all
  unfold read? spelled
  rw [Option.bind_eq_some_iff]
  simp only [variant, named]

namespace LoadBalancer

theorem readBy_labels : labelsSpelled.ReadBy (labels? Value.format) :=
  readBy_text.table readBy_text

theorem Declared.readBy : Declared.spelled.ReadBy (Declared.read? Value.format) := by
  intro value service
  apply record_bind_eq_some_iff (show (Declared.fields.map Field.name).Nodup by decide)
  intro member
  simp only [Option.bind_eq_bind, Option.bind_eq_some_iff, Option.pure_def, Option.some.injEq,
    Protocol.readBy.required, readBy_text.required, readBy_labels.defaulted,
    (readBy_address.table readBy_word).defaulted]
  constructor
  · intro read
    obtain ⟨_, protocol, _, scheduler, _, selector, _, weights, rfl⟩ := read
    exact ⟨protocol, scheduler, selector, weights⟩
  · intro spelled
    obtain ⟨protocol, scheduler, selector, weights⟩ := spelled
    exact ⟨_, protocol, _, scheduler, _, selector, _, weights, rfl⟩

theorem Election.readBy : Election.spelled.ReadBy (Election.read? Value.format) := by
  intro value election
  apply record_bind_eq_some_iff (show (Election.fields.map Field.name).Nodup by decide)
  intro member
  simp only [Option.bind_eq_bind, Option.bind_eq_some_iff, Option.pure_def, Option.some.injEq, readBy_word.required,
    readBy_word.defaulted, readBy_address.list.optional.defaulted]
  constructor
  · intro read
    obtain ⟨_, routerId, _, priority, _, peers, rfl⟩ := read
    exact ⟨routerId, priority, peers⟩
  · intro spelled
    obtain ⟨routerId, priority, peers⟩ := spelled
    exact ⟨_, routerId, _, priority, _, peers, rfl⟩

theorem Spec.readBy : Spec.spelled.ReadBy (Spec.read? Value.format) := by
  intro value spec
  apply record_bind_eq_some_iff (show (Spec.fields.map Field.name).Nodup by decide)
  intro member
  simp only [Option.bind_eq_bind, Option.bind_eq_some_iff, Option.pure_def, Option.some.injEq,
    readBy_address.list.required, readBy_text.required, Election.readBy.required, readBy_word.defaulted,
    Declared.readBy.list.defaulted]
  constructor
  · intro read
    obtain ⟨_, addresses, _, interface, _, election, _, fwmark, _, services, rfl⟩ := read
    exact ⟨addresses, interface, election, fwmark, services⟩
  · intro spelled
    obtain ⟨addresses, interface, election, fwmark, services⟩ := spelled
    exact ⟨_, addresses, _, interface, _, election, _, fwmark, _, services, rfl⟩

theorem readBy : spelled.ReadBy (read? Value.format) := by
  intro value balancer
  have metadata := readBy_record (show (metadataFields.map Field.name).Nodup by decide)
  apply record_bind_eq_some_iff (show (LoadBalancer.fields.map Field.name).Nodup by decide)
  intro member
  simp only [Option.bind_eq_bind, Option.bind_eq_some_iff, Option.pure_def, Option.some.injEq, metadata.required,
    readBy_text.required, readBy_text.defaulted, Spec.readBy.required]
  constructor
  · intro read
    obtain ⟨_, ⟨_, there, metadata⟩, _, scope, _, name, _, uid, _, version, _, spec, rfl⟩ := read
    exact ⟨⟨_, there, _, metadata, scope, name, uid, version⟩, spec⟩
  · intro spelled
    obtain ⟨⟨_, there, _, metadata, scope, name, uid, version⟩, spec⟩ := spelled
    exact ⟨_, ⟨_, there, metadata⟩, _, scope, _, name, _, uid, _, version, _, spec, rfl⟩

end LoadBalancer

theorem Node.readBy : Node.spelled.ReadBy (Node.read? Value.format) := by
  intro value node
  apply record_bind_eq_some_iff (show (Node.fields.map Field.name).Nodup by decide)
  intro member
  simp only [Option.bind_eq_bind, Option.bind_eq_some_iff, Option.pure_def, Option.some.injEq, readBy_text.required,
    readBy_address.required, readBy_flag.required, LoadBalancer.readBy_labels.defaulted]
  constructor
  · intro read
    obtain ⟨_, name, _, address, _, ready, _, labels, rfl⟩ := read
    exact ⟨name, address, ready, labels⟩
  · intro spelled
    obtain ⟨name, address, ready, labels⟩ := spelled
    exact ⟨_, name, _, address, _, ready, _, labels, rfl⟩

theorem Membership.readBy : Membership.spelled.ReadBy (Membership.read? Value.format) := by
  intro value membership
  apply record_bind_eq_some_iff (show ([Field.named "nodes"].map Field.name).Nodup by decide)
  intro member
  simp only [Option.bind_eq_bind, Option.bind_eq_some_iff, Option.pure_def, Option.some.injEq,
    Node.readBy.list.defaulted]
  constructor
  · intro read
    obtain ⟨_, nodes, rfl⟩ := read
    exact nodes
  · intro nodes
    exact ⟨_, nodes, rfl⟩

/-! ### Writing -/

theorem Protocol.writtenBy : Protocol.spelled.WrittenBy (fun protocol => .text protocol.name) := by
  intro protocol
  refine ⟨protocol.name, .inl rfl, ?_⟩
  cases protocol
  · exact .inl rfl
  · exact .inl rfl

namespace LoadBalancer

theorem writtenBy_labels : labelsSpelled.WrittenBy labelsValue :=
  WrittenBy.table (fun _ => rfl) (fun _ => rfl)

theorem Declared.writtenBy : Declared.spelled.WrittenBy Declared.value := by
  intro service
  have members := readBy_record (show (Declared.fields.map Field.name).Nodup by decide)
  refine ⟨_, (members _ _).1 rfl, ?_, ?_, ?_, ?_⟩
  · exact ⟨_, rfl, Protocol.writtenBy _⟩
  · exact ⟨_, rfl, rfl⟩
  · exact .inr ⟨_, rfl, writtenBy_labels _⟩
  · exact .inr ⟨_, rfl, WrittenBy.table writtenBy_address writtenBy_word _⟩

theorem writtenBy_peers : (optional (list address)).WrittenBy (fun peers => match peers with
    | none => .null
    | some peers => .list (peers.map addressValue)) := by
  intro peers
  cases peers with
  | none => exact .inl ⟨rfl, rfl⟩
  | some peers => exact .inr ⟨Value.noConfusion, peers, rfl, writtenBy_address.list peers⟩

theorem Election.writtenBy : Election.spelled.WrittenBy Election.value := by
  intro election
  have members := readBy_record (show (Election.fields.map Field.name).Nodup by decide)
  refine ⟨_, (members _ _).1 rfl, ?_, ?_, ?_⟩
  · exact ⟨_, rfl, rfl⟩
  · exact .inr ⟨_, rfl, rfl⟩
  · exact .inr ⟨_, rfl, writtenBy_peers _⟩

theorem Spec.writtenBy : Spec.spelled.WrittenBy Spec.value := by
  intro spec
  have members := readBy_record (show (Spec.fields.map Field.name).Nodup by decide)
  refine ⟨_, (members _ _).1 rfl, ?_, ?_, ?_, ?_, ?_⟩
  · exact ⟨_, rfl, writtenBy_address.list _⟩
  · exact ⟨_, rfl, rfl⟩
  · exact ⟨_, rfl, Election.writtenBy _⟩
  · exact .inr ⟨_, rfl, rfl⟩
  · exact .inr ⟨_, rfl, Declared.writtenBy.list _⟩

theorem writtenBy : spelled.WrittenBy value := by
  intro balancer
  have members := readBy_record (show (LoadBalancer.fields.map Field.name).Nodup by decide)
  have metadata := readBy_record (show (metadataFields.map Field.name).Nodup by decide)
  refine ⟨_, (members _ _).1 rfl, ⟨_, rfl, _, (metadata _ _).1 rfl, ?_, ?_, ?_, ?_⟩, ?_⟩
  · exact ⟨_, rfl, rfl⟩
  · exact ⟨_, rfl, rfl⟩
  · exact ⟨_, rfl, rfl⟩
  · exact .inr ⟨_, rfl, rfl⟩
  · exact ⟨_, rfl, Spec.writtenBy _⟩

end LoadBalancer

theorem Node.writtenBy : Node.spelled.WrittenBy Node.value := by
  intro node
  have members := readBy_record (show (Node.fields.map Field.name).Nodup by decide)
  refine ⟨_, (members _ _).1 rfl, ?_, ?_, ?_, ?_⟩
  · exact ⟨_, rfl, rfl⟩
  · exact ⟨_, rfl, writtenBy_address _⟩
  · exact ⟨_, rfl, rfl⟩
  · exact .inr ⟨_, rfl, LoadBalancer.writtenBy_labels _⟩

theorem Membership.writtenBy : Membership.spelled.WrittenBy Membership.value := by
  intro membership
  have members := readBy_record (show ([Field.named "nodes"].map Field.name).Nodup by decide)
  exact ⟨_, (members _ _).1 rfl, .inr ⟨_, rfl, Node.writtenBy.list _⟩⟩

/-! ### Documents -/

/-- How a kind of thing stands in documents: of the values in the JSON notation its spellings are understood and no
others, what is written is read back, and so is what was read before, from whatever notation. -/
structure Documented {α : Type} (read : {ν : Type} → Format ν → ν → Option α) (write : α → Value)
    (spelling : Spelling α) : Prop where
  understood : ∀ value thing, read Value.format value = some thing ↔ spelling value thing
  readBack : ∀ thing, read Value.format (write thing) = some thing
  settled : ∀ {ν : Type} (format : Format ν) (document : ν),
    (read format document).bind (fun thing => read Value.format (write thing)) = read format document

theorem Documented.of_spelling {α : Type} {read : {ν : Type} → Format ν → ν → Option α} {write : α → Value}
    {spelling : Spelling α} (reads : spelling.ReadBy (read Value.format)) (writes : spelling.WrittenBy write) :
    Documented read write spelling where
  understood := reads
  readBack := reads.read_write writes
  settled := by
    intro ν format document
    calc
      _ = (read format document).bind some := by
        congr
        funext thing
        exact reads.read_write writes thing
      _ = read format document := Option.bind_fun_some _

theorem documents_settle :
    Documented LoadBalancer.read? LoadBalancer.value LoadBalancer.spelled ∧
    Documented Membership.read? Membership.value Membership.spelled ∧
    Documented Node.read? Node.value Node.spelled :=
  ⟨.of_spelling LoadBalancer.readBy LoadBalancer.writtenBy, .of_spelling Membership.readBy Membership.writtenBy,
    .of_spelling Node.readBy Node.writtenBy⟩

/-- Metadata without names, another name for the addresses, all groups of an address, a member that nobody asks for, a
protocol in lower case, and as much left out as may be. -/
example :
    (LoadBalancer.read? Value.format (.record [
      ("metadata", .list [.text "kube-system", .text "lb", .text "u"]),
      ("spec", .record [
        ("virtualIPs", .list [.text "10.0.0.5", .text "2001:DB8:0:0:0:0:0:05"]),
        ("interface", .text "eth0"),
        ("comment", .otherNumber),
        ("vrrp", .record [("virtualRouterId", .natural 50)]),
        ("virtualServers", .list [.record [("protocol", .text "tcp"), ("scheduler", .text "wrr"),
          ("weights", .record [("10.1.0.2", .natural 3), ("10.1.0.2", .natural 4)])]])])])) =
    some ⟨⟨"kube-system", "lb"⟩, "u", "",
      ⟨[.v4 10 0 0 5, .v6 #v[0x2001, 0xdb8, 0, 0, 0, 0, 0, 5]], "eth0", ⟨50, 100, none⟩, 1,
        [⟨.tcp, "wrr", .empty, .ofList [(.v4 10 1 0 2, 4)]⟩]⟩⟩ := by
  decide +kernel

end VipKeeper
