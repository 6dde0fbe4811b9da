import VipKeeper.Proofs.Artifact.Legible

/-! The virtual addresses of a configuration, found in its text.

The block of the addresses is the last one with its header. It is looked for line by line, so that it is found behind
any path at all, also behind one that no settings would let into a configuration. -/

namespace VipKeeper

namespace Item

/-! ### Lines without their indentation -/

/-- What is left of a line without the spaces before it. -/
def stripped (line : List Char) : List Char :=
  line.dropWhile (· == ' ')

/-- No block of an item has a header. -/
abbrev Lacks (header : String) : Item → Prop :=
  Each (fun _ => True) (· ≠ header)

abbrev AllLack (header : String) : List Item → Prop :=
  EachOf (fun _ => True) (· ≠ header)

theorem stripped_indent {words : String} (begins : ∃ c rest, words.toList = c :: rest ∧ c ≠ ' ') (depth : Nat) :
    stripped (indent depth ++ words).toList = words.toList := by
  obtain ⟨c, rest, letters, other⟩ := begins
  rw [toList_indent, letters, stripped, dropWhile_spaces _ other]

/-- Only the header of a block is written as that header. -/
theorem stripped_linesOf (header : String) (depth : Nat) {items : List Item} (plain : AllPlain items)
    (lacks : AllLack header items) :
    ∀ line ∈ linesOf depth items, stripped line.toList ≠ (header ++ " \x7b").toList := by
  refine forall_linesOf ?_ ?_ ?_ ?_ depth items (eachOf_and items plain lacks)
  · rintro depth text ⟨well, -⟩ same
    rw [stripped_indent well.shape] at same
    exact (well.plain '\x7b' (by simp [same])).2.1 rfl
  · rintro depth text ⟨well, other⟩ same
    obtain ⟨c, rest, letters, apart⟩ := well.shape
    have begins : ∃ c rest, (text ++ " \x7b").toList = c :: rest ∧ c ≠ ' ' :=
      ⟨c, rest ++ " \x7b".toList, by rw [String.toList_append, letters, List.cons_append], apart⟩
    rw [String.append_assoc, stripped_indent begins] at same
    exact other ((String.append_left_inj _).1 (String.toList_inj.1 same))
  · intro depth same
    rw [stripped_indent ⟨'\x7d', [], rfl, by decide⟩] at same
    have length := congrArg List.length same
    simp at length
  · simp [stripped]

theorem linesOf_append (depth : Nat) (items more : List Item) :
    linesOf depth (items ++ more) = linesOf depth items ++ linesOf depth more := by
  induction items with
  | nil => rfl
  | cons item rest ih => simp [linesOf, ih]

/-- Whatever stands in ended lines, the lines behind them are read as they are. -/
theorem splitOn_behind (front : List String) (rest : List Char) :
    ∃ earlier, ((String.join (front.map (fun line => line ++ "\n"))).toList ++ rest).splitOn '\n' =
      earlier ++ rest.splitOn '\n' := by
  induction front with
  | nil => exact ⟨[], by simp⟩
  | cons line later ih =>
    obtain ⟨earlier, split⟩ := ih
    refine ⟨line.toList.splitOn '\n' ++ earlier, ?_⟩
    have first := List.splitOn_append_cons_self (a := '\n') line.toList
      ((String.join (later.map (fun line => line ++ "\n"))).toList ++ rest)
    rw [split] at first
    rw [List.append_assoc, ← first]
    simp [String.toList_join]

/-- The lines of items without their indentation. -/
def strippedLines (items : List Item) : List (List Char) :=
  (linesOf 0 items).map (fun line => stripped line.toList)

theorem strippedLines_append (items more : List Item) :
    strippedLines (items ++ more) = strippedLines items ++ strippedLines more := by
  simp [strippedLines, linesOf_append]

theorem strippedLines_behind {items : List Item} (plain : AllPlain items) (front : List Item) :
    ∃ earlier, ((render (front ++ items)).toList.splitOn '\n').map stripped =
      earlier ++ (strippedLines items ++ [[]]) := by
  obtain ⟨earlier, split⟩ := splitOn_behind (linesOf 0 front)
    (String.join ((linesOf 0 items).map (fun line => line ++ "\n"))).toList
  have parts : (render (front ++ items)).toList =
      (String.join ((linesOf 0 front).map (fun line => line ++ "\n"))).toList ++
        (String.join ((linesOf 0 items).map (fun line => line ++ "\n"))).toList := by
    simp [render, linesOf_append, String.toList_join]
  refine ⟨earlier.map stripped, ?_⟩
  rw [parts, split, splitOn_ended (not_mem_linesOf 0 plain)]
  simp [strippedLines, stripped]

end Item

namespace Artifact

open Item (Plain AllPlain Lacks eachOf_append eachOf_spaced stripped strippedLines linesOf lines)

/-! ### The last block with a header -/

def addressesHeader : List Char :=
  "virtual_ipaddress \x7b".toList

/-- What stands in the last block with a header, up to the first closing brace. -/
def lastBlock? (header : List Char) : List (List Char) → Option (List (List Char))
  | [] => none
  | line :: rest =>
    match lastBlock? header rest with
    | some body => some body
    | none => if line = header then some (rest.takeWhile (· ≠ ['\x7d'])) else none

/-- The addresses of the last block of virtual addresses, one on each of its lines. -/
def virtualAddresses? (text : String) : Option (List Address) :=
  (lastBlock? addressesHeader ((text.toList.splitOn '\n').map stripped)).bind (List.mapM Address.ofChars?)

theorem lastBlock?_eq_none {header : List Char} {text : List (List Char)} (absent : header ∉ text) :
    lastBlock? header text = none := by
  induction text with
  | nil => rfl
  | cons line rest ih =>
    have other : line ≠ header := fun same => absent (same ▸ List.mem_cons_self)
    have later := ih (fun inside => absent (List.mem_cons_of_mem line inside))
    simp [lastBlock?, later, other]

theorem lastBlock?_append {header : List Char} {text : List (List Char)} {body : List (List Char)}
    (found : lastBlock? header text = some body) (front : List (List Char)) :
    lastBlock? header (front ++ text) = some body := by
  induction front with
  | nil => exact found
  | cons line rest ih => simp [lastBlock?, ih]

theorem lastBlock?_cons {header : List Char} {body after : List (List Char)}
    (unclosed : ∀ line ∈ body, line ≠ ['\x7d']) (within : header ∉ body) (behind : header ∉ after)
    (other : header ≠ ['\x7d']) :
    lastBlock? header (header :: (body ++ ['\x7d'] :: after)) = some body := by
  have absent : header ∉ body ++ ['\x7d'] :: after := by
    simp [within, behind, other]
  rw [lastBlock?, lastBlock?_eq_none absent]
  simp only [↓reduceIte, Option.some.injEq]
  rw [List.takeWhile_append_of_pos (by simpa using unclosed), List.takeWhile_cons_of_neg (by simp), List.append_nil]

/-! ### Compiled configurations -/

variable {router : Instance}

theorem lacks_realServerBlock (server : RealServer) : Lacks "virtual_ipaddress" (realServerBlock server) := by
  have header : "real_server " ++ server.address.text ++ " " ++ toString server.port.toNat ≠ "virtual_ipaddress" := by
    intro same
    have letters := congrArg String.toList same
    simp at letters
  exact ⟨header, trivial, ⟨by decide, trivial, trivial, trivial⟩, trivial⟩

theorem lacks_virtualServerBlock (server : VirtualServer) : Lacks "virtual_ipaddress" (virtualServerBlock server) := by
  have header : "virtual_server fwmark " ++ toString server.fwmark.toNat ≠ "virtual_ipaddress" := by
    intro same
    have letters := congrArg String.toList same
    simp at letters
  exact ⟨header, eachOf_append.2 ⟨⟨trivial, trivial, trivial, trivial, trivial, trivial⟩,
    eachOf_spaced lacks_realServerBlock server.realServers⟩⟩

/-- The block of the addresses is the last in its instance. -/
theorem strippedLines_instanceBlock (router : Instance) :
    ∃ front, strippedLines [instanceBlock router] =
      front ++ addressesHeader :: (router.addresses.map Address.chars ++ [['\x7d'], ['\x7d']]) := by
  have listed : (linesOf 2 (addressList router.addresses)).map (fun line => stripped line.toList) =
      router.addresses.map Address.chars := by
    induction router.addresses with
    | nil => rfl
    | cons address rest ih =>
      have first := Item.stripped_indent (words_address address).shape 2
      simp only [addressList, List.map_cons, linesOf, lines, List.cons_append, List.nil_append, first] at ih ⊢
      rw [ih, Address.text, String.toList_ofList]
  -- Nothing but the last block matters here, so that the settings before it need not be written out.
  obtain ⟨settings, shape⟩ : ∃ settings, instanceBlock router = .block ("vrrp_instance " ++ router.name)
      (settings ++ [.block "virtual_ipaddress" (addressList router.addresses)]) := ⟨_, rfl⟩
  refine ⟨stripped (Item.indent 0 ++ ("vrrp_instance " ++ router.name) ++ " \x7b").toList ::
    (linesOf 1 settings).map (fun line => stripped line.toList), ?_⟩
  have header : stripped (Item.indent 1 ++ "virtual_ipaddress" ++ " \x7b").toList = addressesHeader := rfl
  have inner : stripped (Item.indent 1 ++ "\x7d").toList = ['\x7d'] := rfl
  have outer : stripped (Item.indent 0 ++ "\x7d").toList = ['\x7d'] := rfl
  simp only [strippedLines, shape, lines, linesOf, Item.linesOf_append, List.append_nil, List.map_append, List.map_cons,
    List.map_nil, listed, header, inner, outer, Nat.zero_add, List.append_assoc, List.cons_append, List.nil_append]

theorem not_mem_strippedLines (servers : List VirtualServer) :
    addressesHeader ∉ strippedLines (servers.flatMap (fun server => [.gap, virtualServerBlock server])) := by
  have apart := Item.stripped_linesOf "virtual_ipaddress" 0 (eachOf_spaced plain_virtualServerBlock servers)
    (eachOf_spaced lacks_virtualServerBlock servers)
  intro inside
  obtain ⟨line, among, same⟩ := List.mem_map.1 inside
  exact apart line among same

/-- The virtual addresses of a compiled configuration are those of its instance. -/
theorem virtualAddresses?_compile (named : ∃ key, router.name = LoadBalancer.instanceName key)
    (interface : Interface.isName router.interface = true) (reportPath : Option String) (servers : List VirtualServer) :
    virtualAddresses? (compile reportPath router servers) = some router.addresses := by
  have plain : AllPlain ([instanceBlock router] ++ servers.flatMap (fun server => [.gap, virtualServerBlock server])) :=
    ⟨plain_instanceBlock named interface, eachOf_spaced plain_virtualServerBlock servers⟩
  obtain ⟨earlier, split⟩ := Item.strippedLines_behind plain (reportItems reportPath)
  obtain ⟨front, block⟩ := strippedLines_instanceBlock router
  have behind : addressesHeader ∉ ['\x7d'] :: (strippedLines
      (servers.flatMap (fun server => [.gap, virtualServerBlock server])) ++ [[]]) := by
    have brace : addressesHeader ≠ ['\x7d'] := by decide
    have empty : addressesHeader ≠ [] := by decide
    simp [brace, empty, not_mem_strippedLines servers]
  have listed : ∀ line ∈ router.addresses.map Address.chars, line ≠ ['\x7d'] ∧ line ≠ addressesHeader := by
    intro line inside
    obtain ⟨address, -, rfl⟩ := List.mem_map.1 inside
    exact ⟨address.chars_ne '\x7d' (by decide) (by decide), address.chars_ne '\x7b' (by decide) (by decide)⟩
  have found := lastBlock?_cons (fun line inside => (listed line inside).1)
    (fun inside => (listed _ inside).2 rfl) behind (by decide)
  have written : ((compile reportPath router servers).toList.splitOn '\n').map stripped =
      earlier ++ front ++ addressesHeader :: (router.addresses.map Address.chars ++ ['\x7d'] :: ['\x7d'] ::
        (strippedLines (servers.flatMap (fun server => [.gap, virtualServerBlock server])) ++ [[]])) := by
    rw [compile, items, ← List.singleton_append, split, Item.strippedLines_append, block]
    simp
  rw [virtualAddresses?, written, lastBlock?_append found, Option.bind_some, Address.mapM_chars]

end Artifact

end VipKeeper
