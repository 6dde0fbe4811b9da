import VipKeeper.Artifact.Compile
import VipKeeper.LoadBalancer.Resolution
import VipKeeper.Proofs.Artifact.Reading
import VipKeeper.Proofs.Net.AddressText
import VipKeeper.Settings.Basic

/-! Compiled configurations can be read back: no name, path or address in one begins or ends a line or a block. -/

namespace VipKeeper.Artifact

open Item (IsPlain Words Plain AllPlain eachOf_iff eachOf_append eachOf_spaced)

/-! ### Characters that are filled in -/

theorem isPlain_of_isDigit {base : Nat} {c : Char} (digit : Address.isDigit base c = true) : IsPlain c := by
  refine ⟨?_, ?_, ?_⟩ <;>
  · rintro rfl
    simp [Address.isDigit, Address.digit?] at digit

theorem isPlain_number (n : Nat) : ∀ c ∈ (toString n).toList, IsPlain c := by
  intro c inside
  rw [Nat.toString_eq_ofList_toDigits, String.toList_ofList] at inside
  exact isPlain_of_isDigit (Address.isDigit_of_mem_toDigits (by decide) (by decide) inside)

theorem isPlain_address (address : Address) : ∀ c ∈ address.text.toList, IsPlain c := by
  intro c inside
  rw [Address.text, String.toList_ofList] at inside
  rcases address.isWritten_chars c inside with digit | rfl | rfl
  · exact isPlain_of_isDigit digit
  · decide
  · decide

theorem words_address (address : Address) : Words address.text := by
  have letters : address.text.toList = address.chars := String.toList_ofList
  exact .of_plain (letters ▸ address.chars_ne_nil) (letters ▸ address.not_mem_chars (by decide)) (isPlain_address address)

theorem isPlain_scheduler (scheduler : Scheduler) : ∀ c ∈ scheduler.name.toList, IsPlain c := by
  cases scheduler <;> exact Item.isPlain_of_all (by decide)

theorem isPlain_protocol (protocol : Protocol) : ∀ c ∈ protocol.name.toList, IsPlain c := by
  cases protocol <;> exact Item.isPlain_of_all (by decide)

theorem isPlain_instanceName (key : ObjectKey) : ∀ c ∈ (LoadBalancer.instanceName key).toList, IsPlain c := by
  intro c inside
  rw [LoadBalancer.instanceName, String.toList_ofList, List.mem_map] at inside
  obtain ⟨letter, -, rfl⟩ := inside
  split
  next ordinary =>
    refine ⟨?_, ?_, ?_⟩ <;>
    · rintro rfl
      exact absurd ordinary (by decide)
  next => decide

theorem isPlain_visible {c : Char} (visible : Text.isVisibleAscii c = true) (first : c ≠ '\x7b') (second : c ≠ '\x7d') :
    IsPlain c := by
  refine ⟨?_, first, second⟩
  rintro rfl
  exact absurd visible (by decide)

theorem words_interface {name : String} (valid : Interface.isName name = true) : Words name := by
  simp only [Interface.isName, Bool.and_eq_true, Bool.not_eq_true', List.all_eq_true] at valid
  obtain ⟨⟨⟨⟨nonempty, -⟩, -⟩, -⟩, letters⟩ := valid
  refine .of_plain (by simpa using nonempty) (fun space => absurd (letters ' ' space).1 (by decide)) ?_
  intro c inside
  obtain ⟨visible, free⟩ := letters c inside
  exact isPlain_visible visible (by rintro rfl; cases free) (by rintro rfl; cases free)

theorem isPlain_path {path : String} (valid : Settings.reportPathComplaints (some path) = []) :
    ∀ c ∈ path.toList, IsPlain c := by
  have plain : Settings.isPlainPath path = true := by
    cases result : Settings.isPlainPath path with
    | true => rfl
    | false =>
      simp only [Settings.reportPathComplaints, Settings.complain, result] at valid
      split at valid <;> cases valid
  intro c inside
  simp only [Settings.isPlainPath, List.all_eq_true, Bool.and_eq_true] at plain
  obtain ⟨visible, free⟩ := plain c inside
  exact isPlain_visible visible (by rintro rfl; cases free) (by rintro rfl; cases free)

/-! ### Compiled items -/

/-- What the settings and the resolution of a load balancer let into a configuration. -/
structure Proper (reportPath : Option String) (router : Instance) : Prop where
  path : Settings.reportPathComplaints reportPath = []
  name : ∃ key, router.name = LoadBalancer.instanceName key
  interface : Interface.isName router.interface = true

theorem plain_setting {keyword : String} (words : Words (keyword ++ " ")) (n : Nat) : Plain (setting keyword n) :=
  words.append (isPlain_number n)

theorem allPlain_addressList (addresses : List Address) : AllPlain (addressList addresses) := by
  refine eachOf_iff.2 ?_
  intro item inside
  obtain ⟨address, -, rfl⟩ := List.mem_map.1 inside
  exact words_address address

theorem allPlain_unicastItems (unicast : Option Unicast) : AllPlain (unicastItems unicast) := by
  cases unicast with
  | none => trivial
  | some unicast =>
    have source : Words ("unicast_src_ip " ++ unicast.source.text) :=
      Words.append (by decide) (isPlain_address unicast.source)
    exact ⟨source, ⟨by decide, allPlain_addressList unicast.peers⟩, trivial⟩

theorem plain_instanceBlock {router : Instance} (named : ∃ key, router.name = LoadBalancer.instanceName key)
    (interface : Interface.isName router.interface = true) : Plain (instanceBlock router) := by
  obtain ⟨key, name⟩ := named
  have device := words_interface interface
  have header : Words ("vrrp_instance " ++ router.name) := by
    rw [name]
    exact Words.append (by decide) (isPlain_instanceName key)
  have settings : AllPlain [.statement "state BACKUP", .statement ("interface " ++ router.interface),
      setting "virtual_router_id" router.routerId.toNat, setting "priority" router.priority.toNat,
      setting "advert_int" router.advertSeconds, .statement "nopreempt",
      .block "track_interface" [.statement router.interface]] :=
    ⟨Words.plain_statement (by decide), Words.append (by decide) device.plain, plain_setting (by decide) _,
      plain_setting (by decide) _, plain_setting (by decide) _, Words.plain_statement (by decide),
      ⟨by decide, device, trivial⟩, trivial⟩
  have addresses : AllPlain [.block "virtual_ipaddress" (addressList router.addresses)] :=
    ⟨⟨by decide, allPlain_addressList _⟩, trivial⟩
  exact ⟨header, eachOf_append.2 ⟨eachOf_append.2 ⟨settings, allPlain_unicastItems _⟩, addresses⟩⟩

theorem plain_realServerBlock (server : RealServer) : Plain (realServerBlock server) := by
  have address : Words ("real_server " ++ server.address.text) :=
    Words.append (by decide) (isPlain_address server.address)
  have header : Words ("real_server " ++ server.address.text ++ " " ++ toString server.port.toNat) :=
    (address.append (Item.isPlain_of_all (by decide))).append (isPlain_number _)
  exact ⟨header, plain_setting (by decide) _,
    ⟨by decide, plain_setting (by decide) _, plain_setting (by decide) _, trivial⟩, trivial⟩

theorem plain_virtualServerBlock (server : VirtualServer) : Plain (virtualServerBlock server) := by
  have header : Words ("virtual_server fwmark " ++ toString server.fwmark.toNat) :=
    Words.append (by decide) (isPlain_number _)
  have settings : AllPlain [setting "delay_loop" delayLoop, .statement ("lvs_sched " ++ server.scheduler.name),
      .statement "lvs_method DR", setting "persistence_timeout" persistenceTimeout,
      .statement ("protocol " ++ server.protocol.name)] :=
    ⟨plain_setting (by decide) _, Words.append (by decide) (isPlain_scheduler _),
      Words.plain_statement (by decide), plain_setting (by decide) _, Words.append (by decide) (isPlain_protocol _),
      trivial⟩
  exact ⟨header, eachOf_append.2 ⟨settings, eachOf_spaced plain_realServerBlock server.realServers⟩⟩

theorem allPlain_reportItems {reportPath : Option String} (valid : Settings.reportPathComplaints reportPath = []) :
    AllPlain (reportItems reportPath) := by
  cases reportPath with
  | none => trivial
  | some path =>
    have pipe : Words ("notify_fifo " ++ path) := Words.append (by decide) (isPlain_path valid)
    exact ⟨⟨by decide, pipe, trivial⟩, trivial, trivial⟩

theorem allPlain_items {reportPath : Option String} {router : Instance} (proper : Proper reportPath router)
    (servers : List VirtualServer) : AllPlain (items reportPath router servers) := by
  have settings := allPlain_reportItems proper.path
  have election := plain_instanceBlock proper.name proper.interface
  exact eachOf_append.2 ⟨settings, election, eachOf_spaced plain_virtualServerBlock servers⟩

/-- A compiled configuration is read as the items that were compiled. -/
theorem read?_compile {reportPath : Option String} {router : Instance} (proper : Proper reportPath router)
    (servers : List VirtualServer) :
    Item.read? (compile reportPath router servers) = some (items reportPath router servers) :=
  Item.read?_render (allPlain_items proper servers)

end VipKeeper.Artifact
