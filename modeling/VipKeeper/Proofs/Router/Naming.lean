import VipKeeper.Proofs.Artifact.Addresses
import VipKeeper.Proofs.Artifact.Outline
import VipKeeper.Proofs.Router.Streams
import VipKeeper.Rehearsal.ServerScript

/-! The name of the router instance of a load balancer, from the configuration to the reports that name it.

The name is written into the configuration, the daemon reports under it, and the reader of reports looks for it. Whatever
the key is, the name is made of characters that no quotes or white space are lost from, so that it comes back unchanged. -/

namespace VipKeeper

/-! ### Words -/

namespace Text

/-- White space comes before what follows a word, if anything does. -/
def Apart (tail : List Char) : Prop :=
  ∀ c ∈ tail.head?, isBlank c = true

theorem solid_of_all {chars : List Char} (all : chars.all (fun c => !isBlank c) = true) :
    ∀ c ∈ chars, isBlank c = false := by
  simpa using all

theorem words_append_blank {blank : Char} (white : isBlank blank = true) (text rest : List Char) :
    words (text ++ blank :: rest) = words text ++ words rest := by
  rw [words, List.splitOnP_append_cons _ _ white, List.filter_append, ← words, ← words]

theorem words_concat_blank {blank : Char} (white : isBlank blank = true) (text : List Char) :
    words (text ++ [blank]) = words text := by
  rw [words_append_blank white]
  exact List.append_nil (words text)

theorem words_solid {word : List Char} (solid : ∀ c ∈ word, isBlank c = false) (occupied : word ≠ []) :
    words word = [word] := by
  rw [words, List.splitOnP_eq_singleton (fun c inside => by simp [solid c inside])]
  simp [occupied]

theorem words_cons {word : List Char} {blank : Char} (solid : ∀ c ∈ word, isBlank c = false) (occupied : word ≠ [])
    (white : isBlank blank = true) (rest : List Char) : words (word ++ blank :: rest) = word :: words rest := by
  rw [words_append_blank white, words_solid solid occupied, List.singleton_append]

theorem words_append_apart {word tail : List Char} (solid : ∀ c ∈ word, isBlank c = false) (occupied : word ≠ [])
    (apart : Apart tail) : ∃ rest, words (word ++ tail) = word :: rest := by
  cases tail with
  | nil => exact ⟨[], by rw [List.append_nil, words_solid solid occupied]⟩
  | cons blank tail => exact ⟨words tail, words_cons solid occupied (apart blank rfl) tail⟩

theorem trimBy_enclosed {drop : Char → Bool} {mark : Char} {text : List Char} (dropped : drop mark = true)
    (kept : ∀ c ∈ text, drop c = false) (occupied : text ≠ []) : trimBy drop (mark :: text ++ [mark]) = text := by
  have front (chars after : List Char) (kept : ∀ c ∈ chars, drop c = false) (occupied : chars ≠ []) :
      (mark :: chars ++ after).dropWhile drop = chars ++ after := by
    obtain ⟨first, rest, rfl⟩ := List.exists_cons_of_ne_nil occupied
    simp [dropped, kept first List.mem_cons_self]
  have back := front text.reverse [] (fun c inside => kept c (List.mem_reverse.1 inside)) (by simpa using occupied)
  rw [List.append_nil, List.append_nil] at back
  rw [trimBy, front text [mark] kept occupied, List.reverse_append, List.reverse_singleton, List.singleton_append, back,
    List.reverse_reverse]

end Text

namespace Report

open Text

/-- The words for the state of an instance, with the roles that they stand for. -/
def states : List (String × Role) :=
  [("MASTER", .master), ("BACKUP", .backup), ("FAULT", .backup), ("STOP", .init)]

/-- The word that a report begins with. -/
def keyword : List Char :=
  "INSTANCE".toList

/-- A line of the daemon about an instance. -/
def line (router word : String) (tail : List Char) : List Char :=
  keyword ++ ' ' :: (('"' :: router.toList ++ ['"']) ++ ' ' :: (word.toList ++ tail))

/-- A name that stands in quotes as it is. -/
def Quotable (router : String) : Prop :=
  router.toList ≠ [] ∧ ∀ c ∈ router.toList, isBlank c = false ∧ (c == '"') = false

theorem role?_of_state {word : String} {role : Role} (state : (word, role) ∈ states) :
    role? word.toList = some role ∧ word.toList ≠ [] ∧ ∀ c ∈ word.toList, isBlank c = false := by
  have all : ∀ state ∈ states, role? state.1.toList = some state.2 ∧ state.1.toList ≠ [] ∧
      state.1.toList.all (fun c => !isBlank c) = true := by
    decide
  exact (all _ state).imp_right (And.imp_right solid_of_all)

theorem ofLine?_line {router word : String} {role : Role} {tail : List Char} (quotable : Quotable router)
    (state : (word, role) ∈ states) (apart : Apart tail) : ofLine? (line router word tail) = some ⟨router, role⟩ := by
  obtain ⟨occupied, solid⟩ := quotable
  obtain ⟨known, occupied', solid'⟩ := role?_of_state state
  have enclosed (c : Char) (inside : c ∈ '"' :: router.toList ++ ['"']) : isBlank c = false := by
    rcases List.mem_append.1 inside with inside | mark
    · rcases List.mem_cons.1 inside with rfl | inside
      · decide
      · exact (solid c inside).1
    · rw [List.mem_singleton.1 mark]
      decide
  obtain ⟨rest, last⟩ := words_append_apart solid' occupied' apart
  have name : words (('"' :: router.toList ++ ['"']) ++ ' ' :: (word.toList ++ tail)) =
      ('"' :: router.toList ++ ['"']) :: word.toList :: rest :=
    (words_cons enclosed (List.cons_ne_nil _ _) (by decide) _).trans (congrArg _ last)
  have parts : words (line router word tail) =
      keyword :: ('"' :: router.toList ++ ['"']) :: word.toList :: rest :=
    (words_cons (solid_of_all (by decide)) (by decide) (by decide) _).trans (congrArg _ name)
  have trimmed : trimBy (· == '"') ('"' :: router.toList ++ ['"']) = router.toList :=
    trimBy_enclosed rfl (fun c inside => (solid c inside).2) occupied
  rw [ofLine?, parts]
  dsimp only
  rw [if_pos (show keyword = "INSTANCE".toList from rfl), known, trimmed, String.ofList_toList, Option.map_some]

/-- White space at the end of a line is of no interest. -/
theorem ofLine?_concat_blank {blank : Char} (white : isBlank blank = true) (text : List Char) :
    ofLine? (text ++ [blank]) = ofLine? text := by
  rw [ofLine?, ofLine?, words_concat_blank white]

section

variable {router : String} {role : Role} {chars : List Char}

theorem about?_of_ofLine? {text : List Char} (told : ofLine? text = some ⟨router, role⟩) :
    about? router (String.ofList text) = some role := by
  simp [about?, told]

/-- A line is reported with or without its end. -/
theorem inStream_encode (whole : '\n' ∉ chars) (told : ofLine? chars = some ⟨router, role⟩) :
    inStream router (encode chars) = [role] ∧ inStream router (encode chars ++ [newline]) = [role] := by
  have unended := newline_notMem_encode whole
  have text : isText (encode chars) = true := isText_iff.2 ⟨chars, rfl⟩
  have text' : isText (encode chars ++ [newline]) = true := isText_append text (isText_iff.2 ⟨['\n'], rfl⟩)
  have occupied : encode chars ≠ [] := by
    intro none
    cases (encode_injective none : chars = [])
    cases told
  constructor
  · have read : ofBytes? (withoutEnd (encode chars)) = some (String.ofList chars) := by
      rw [withoutEnd_of_notMem unended, ofBytes?_eq_some_iff, String.toList_ofList]
    rw [inStream, lines_eq_singleton occupied (fun inside => unended ((List.dropLast_sublist _).mem inside))]
    simp [text, read, about?_of_ofLine? told]
  · obtain ⟨shorter, same, ends⟩ := withoutEnd_encode chars
    have told' : ofLine? shorter = some ⟨router, role⟩ := by
      rcases ends with rfl | rfl
      · exact told
      · rwa [ofLine?_concat_blank (by decide)] at told
    have read : ofBytes? (withoutEnd (encode chars ++ [newline])) = some (String.ofList shorter) := by
      rw [same, ofBytes?_eq_some_iff, String.toList_ofList]
    rw [inStream, lines_eq_singleton (by simp) (by rwa [List.dropLast_concat])]
    simp [text', read, about?_of_ofLine? told']

/-- Nothing is reported by an empty line. -/
theorem inStream_newline (rest : List UInt8) : inStream router (newline :: rest) = inStream router rest := by
  have text : isText [newline] = true := isText_iff.2 ⟨['\n'], rfl⟩
  have read : ofBytes? (withoutEnd [newline]) = some "" := ofBytes?_eq_some_iff.2 rfl
  have silent : about? router "" = none := rfl
  rw [inStream, lines, if_pos rfl, List.takeWhile_cons_of_pos text, List.filterMap_cons, read, Option.bind_some, silent]
  rfl

/-- A line is reported wherever it stands in a stream, unless what comes before it is no text. -/
theorem inStream_around {before after : List UInt8} (whole : '\n' ∉ chars) (told : ofLine? chars = some ⟨router, role⟩)
    (text : isText before = true) (begins : before = [] ∨ isEnded before = true)
    (ends : ∀ byte ∈ after.head?, byte = newline) :
    inStream router (before ++ (encode chars ++ after)) = inStream router before ++ role :: inStream router after := by
  have cut : LineEnds before (encode chars ++ after) := begins.imp_right .inr
  obtain ⟨bare, ended⟩ := inStream_encode whole told
  rw [inStream_append router cut text]
  congr 1
  cases after with
  | nil => rw [List.append_nil, bare]; rfl
  | cons byte rest =>
    obtain rfl := ends byte rfl
    have text' : isText (encode chars ++ [newline]) = true :=
      isText_append (isText_iff.2 ⟨chars, rfl⟩) (isText_iff.2 ⟨['\n'], rfl⟩)
    have last : isEnded (encode chars ++ [newline]) = true := isEnded_iff.2 ⟨_, rfl⟩
    have split : encode chars ++ newline :: rest = (encode chars ++ [newline]) ++ rest := by simp
    rw [split, inStream_append router (.inr (.inr last)) text', ended, inStream_newline]
    rfl

end

end Report

/-! ### The header of the instance -/

theorem Item.render_append (items more : List Item) : render (items ++ more) = render items ++ render more := by
  rw [render, linesOf_append, List.map_append, String.join_append, ← render, ← render]

theorem Item.render_block (header : String) (items more : List Item) :
    ∃ rest, render (.block header items :: more) = header ++ " \x7b\n" ++ rest := by
  refine ⟨String.join ((linesOf 1 items ++ ["\x7d"] ++ linesOf 0 more).map (fun line => line ++ "\n")), ?_⟩
  have margin : indent 0 = "" := rfl
  have opening : header ++ " \x7b" ++ "\n" = header ++ " \x7b\n" := by
    rw [String.append_assoc]
    rfl
  simp only [render, linesOf, lines, margin, List.cons_append, List.map_cons, String.join_cons, String.empty_append,
    opening]

namespace Artifact

/-- A configuration has one block of a router instance, and that is headed by the name of the instance. -/
theorem mem_items_instance_iff (reportPath : Option String) (router : Instance) (servers : List VirtualServer)
    (name : String) :
    (∃ block, Item.block ("vrrp_instance " ++ name) block ∈ items reportPath router servers) ↔ name = router.name := by
  constructor
  · rintro ⟨block, inside⟩
    rcases List.mem_append.1 inside with report | inside
    · cases reportPath with
      | none => cases report
      | some path =>
        simp only [reportItems, List.mem_cons, List.not_mem_nil, or_false, reduceCtorEq] at report
        have letters := congrArg String.toList (Item.block.inj report).1
        simp at letters
    · rcases List.mem_cons.1 inside with same | server
      · exact (String.append_right_inj _).1 (Item.block.inj same).1
      · obtain ⟨server, -, spaced⟩ := List.mem_flatMap.1 server
        simp only [List.mem_cons, List.not_mem_nil, or_false, reduceCtorEq, false_or] at spaced
        have letters := congrArg String.toList (Item.block.inj spaced).1
        simp at letters
  · rintro rfl
    exact ⟨_, List.mem_append_right _ List.mem_cons_self⟩

/-- The header stands behind the settings for reports, whatever path they name. -/
theorem compile_header (reportPath : Option String) (router : Instance) (servers : List VirtualServer) :
    ∃ rest, compile reportPath router servers =
      Item.render (reportItems reportPath) ++ ("vrrp_instance " ++ router.name ++ " \x7b\n" ++ rest) := by
  rw [compile, items, Item.render_append]
  obtain ⟨rest, same⟩ := Item.render_block ("vrrp_instance " ++ router.name) _ _
  exact ⟨rest, congrArg _ same⟩

end Artifact

namespace LoadBalancer

open Report (line states)
open Text (Apart)

theorem isBlank_of_isAlphanum {c : Char} (ordinary : c.isAlphanum = true) : Text.isBlank c = false := by
  change (decide (65 ≤ c.val ∧ c.val ≤ 90) || decide (97 ≤ c.val) && decide (c.val ≤ 122) ||
    decide (48 ≤ c.val) && decide (c.val ≤ 57)) = true at ordinary
  simp only [Bool.or_eq_true, Bool.and_eq_true, decide_eq_true_eq, UInt32.le_iff_toNat_le] at ordinary
  change ((65 ≤ c.toNat ∧ c.toNat ≤ 90) ∨ 97 ≤ c.toNat ∧ c.toNat ≤ 122) ∨ 48 ≤ c.toNat ∧ c.toNat ≤ 57 at ordinary
  simp only [Text.isBlank, Bool.or_eq_false_iff, Bool.and_eq_false_iff, decide_eq_false_iff_not, beq_eq_false_iff_ne]
  omega

theorem mem_instanceName {key : ObjectKey} {c : Char} (inside : c ∈ (instanceName key).toList) :
    c.isAlphanum = true ∨ c = '_' := by
  rw [instanceName, String.toList_ofList, List.mem_map] at inside
  obtain ⟨letter, -, rfl⟩ := inside
  split
  next ordinary => exact .inl ordinary
  next => exact .inr rfl

theorem quotable_instanceName (key : ObjectKey) : Report.Quotable (instanceName key) := by
  refine ⟨?_, fun c inside => ?_⟩
  · simp [instanceName]
  · rcases mem_instanceName inside with ordinary | rfl
    · refine ⟨isBlank_of_isAlphanum ordinary, ?_⟩
      rw [beq_eq_false_iff_ne]
      rintro rfl
      exact absurd ordinary (by decide)
    · decide

theorem newline_notMem_line {key : ObjectKey} {word : String} {role : Role} {tail : List Char}
    (state : (word, role) ∈ states) (single : '\n' ∉ tail) : '\n' ∉ line (instanceName key) word tail := by
  have within {chars : List Char} (solid : ∀ c ∈ chars, Text.isBlank c = false) : '\n' ∉ chars :=
    fun inside => absurd (solid '\n' inside) (by decide)
  have name := within (fun c inside => ((quotable_instanceName key).2 c inside).1)
  have state' := within (Report.role?_of_state state).2.2
  simp only [line, List.mem_append, List.mem_cons, List.not_mem_nil, or_false, not_or]
  exact ⟨by decide, by decide, ⟨⟨by decide, name⟩, by decide⟩, by decide, state', single⟩

end LoadBalancer

/-- The instance of a load balancer has the same name wherever it is named: in the header of its block in the
configuration, of which there is one, and for the reader of its reports. The name has only letters and digits of ASCII
and underscores. A report about it is read as one, whatever follows, and wherever it stands in a stream. -/
theorem LoadBalancer.managed_reports_heard (key : ObjectKey) :
    ((instanceName key).toList ≠ [] ∧ ∀ c ∈ (instanceName key).toList, c.isAlphanum = true ∨ c = '_') ∧
      (∀ reportPath (accepted : Accepted) unicast servers, ∃ rest,
        Artifact.compile reportPath (accepted.router key unicast) servers =
          Item.render (Artifact.reportItems reportPath) ++
            ("vrrp_instance " ++ instanceName key ++ " \x7b\n" ++ rest)) ∧
      (∀ (site : Sync.Site) accepted unicast membership draft, Settings.reportPathComplaints site.reportPath = [] →
        Sync.Draft.make site key accepted unicast membership = .ok draft →
          ∃ items, Item.read? draft.artifact = some items ∧
            ∀ name, (∃ block, Item.block ("vrrp_instance " ++ name) block ∈ items) ↔ name = instanceName key) ∧
      (∀ (plant : Rehearsal.Plant) files opened watcher, plant.target = key →
        plant.openWatcher files = .ok (opened, some watcher) → watcher.tracker = .start (instanceName key)) ∧
      ∀ word role tail, (word, role) ∈ Report.states → Text.Apart tail →
        Report.ofLine? (Report.line (instanceName key) word tail) = some ⟨instanceName key, role⟩ ∧
          (∀ tracker : Tracker, tracker.router = instanceName key →
            tracker.observeLine (String.ofList (Report.line (instanceName key) word tail)) = tracker.observe role) ∧
          ('\n' ∉ tail → ∀ before after, Text.isText before = true → (before = [] ∨ Text.isEnded before = true) →
            (∀ byte ∈ after.head?, byte = Text.newline) →
              Report.inStream (instanceName key)
                  (before ++ (Text.encode (Report.line (instanceName key) word tail) ++ after)) =
                Report.inStream (instanceName key) before ++ role :: Report.inStream (instanceName key) after) := by
  have quotable := quotable_instanceName key
  refine ⟨⟨quotable.1, fun c => mem_instanceName⟩, ?_, ?_, ?_, ?_⟩
  · intro reportPath accepted unicast servers
    exact Artifact.compile_header reportPath (accepted.router key unicast) servers
  · intro site accepted unicast membership draft valid made
    obtain ⟨checked, rfl⟩ := Sync.Draft.make_eq_ok_iff.1 made
    have proper : Artifact.Proper site.reportPath (accepted.router key unicast) :=
      ⟨valid, ⟨key, rfl⟩, Sync.Demand.isName_of_problem? checked⟩
    exact ⟨_, Artifact.read?_compile proper _, Artifact.mem_items_instance_iff _ _ _⟩
  · rintro plant files opened watcher rfl found
    unfold Rehearsal.Plant.openWatcher at found
    split at found
    next => cases found
    next =>
      split at found
      next =>
        cases found
        rfl
      next => cases found
  · intro word role tail state apart
    have told := Report.ofLine?_line quotable state apart
    refine ⟨told, ?_, fun single before after text begins ends => ?_⟩
    · intro tracker same
      rw [Tracker.observeLine, String.toList_ofList, told]
      exact if_pos same.symm
    · exact Report.inStream_around (newline_notMem_line state single) told text begins ends

/-- A load balancer whose name has a quote, a brace and a line break, and the report of a mastership that ends in a
carriage return. -/
theorem LoadBalancer.managed_reports_heard_unruly :
    let name := instanceName Sync.unruly.key
    let report := Text.encode (Report.line name "MASTER" [' ', '1', '\r'])
    ∃ draft opened watcher items,
      Sync.Draft.make Sync.piped Sync.unruly.key Sync.unruly.spec.accepted none ⟨[]⟩ = .ok draft ∧
        Rehearsal.Plant.openWatcher ⟨⟨"/conf", "/pid"⟩, "/state", ⟨none, some "/lb"⟩, Sync.unruly.key, 1⟩ .empty =
          .ok (opened, some watcher) ∧
        Item.read? draft.artifact = some items ∧ (∃ block, Item.block ("vrrp_instance " ++ name) block ∈ items) ∧
        watcher.tracker = .start name ∧ Report.inStream name (report ++ [Text.newline]) = [.master] := by
  intro name report
  have heard := managed_reports_heard Sync.unruly.key
  obtain ⟨draft, made⟩ : ∃ draft,
      Sync.Draft.make Sync.piped Sync.unruly.key Sync.unruly.spec.accepted none ⟨[]⟩ = .ok draft :=
    ⟨_, Sync.Draft.make_eq_ok_iff.2 ⟨by decide +kernel, rfl⟩⟩
  have absent : Files.empty.find "/lb" = .ok none := by decide +kernel
  have open_ : Rehearsal.Plant.openWatcher ⟨⟨"/conf", "/pid"⟩, "/state", ⟨none, some "/lb"⟩, Sync.unruly.key, 1⟩ .empty =
      .ok (Files.empty.put "/lb" .pipe, some (.start name)) := by
    simp only [Rehearsal.Plant.openWatcher, ReportPipe.ensure, absent]
    rfl
  obtain ⟨items, read, only⟩ := heard.2.2.1 Sync.piped _ none ⟨[]⟩ draft (by decide +kernel) made
  have watched := heard.2.2.2.1 _ .empty _ _ rfl open_
  have apart : Text.Apart [' ', '1', '\r'] := by
    rintro c ⟨⟩
    decide
  have told := (heard.2.2.2.2 "MASTER" .master _ List.mem_cons_self apart).2.2 (by decide)
    [] [Text.newline] Text.isText_nil (.inl rfl) (by simp)
  exact ⟨draft, _, _, items, made, open_, read, (only name).2 rfl, watched, told.trans rfl⟩

end VipKeeper
