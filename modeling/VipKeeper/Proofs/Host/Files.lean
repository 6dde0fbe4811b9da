import VipKeeper.Host.Files
import VipKeeper.Proofs.Table
import Mathlib.Data.List.Basic

/-! What lies at a path after a change at another one.

A path is a list of names, and its key tells it from every other path. The way to a path leads through all shorter
beginnings of it, so a change is seen at the path where it is made and, if a directory comes or goes, below it. -/

namespace VipKeeper

namespace Path

/-- A part of a path that leads somewhere. -/
structure IsName (name : String) : Prop where
  notEmpty : name ≠ ""
  notDot : name ≠ "."
  whole : '/' ∉ name.toList

/-- An empty name and a dot lead nowhere. -/
def leads (name : String) : Bool :=
  !name.isEmpty && name != "."

theorem leads_iff {name : String} : leads name = true ↔ name ≠ "" ∧ name ≠ "." := by
  simp [leads]

theorem names_eq (path : String) : names path = ((path.toList.splitOn '/').map String.ofList).filter leads := rfl

theorem slash_notMem_splitOn {chars part : List Char} (inside : part ∈ chars.splitOn '/') : '/' ∉ part := by
  induction chars generalizing part with
  | nil => simp_all
  | cons c rest ih =>
    rw [List.splitOn_cons_eq_if_modifyHead] at inside
    split at inside
    next =>
      rcases List.mem_cons.1 inside with rfl | later
      · exact List.not_mem_nil
      · exact ih later
    next other =>
      obtain ⟨first, later, split⟩ := List.exists_cons_of_ne_nil (List.splitOn_ne_nil '/' rest)
      rw [split, List.modifyHead_cons] at inside
      rw [split] at ih
      rcases List.mem_cons.1 inside with rfl | later
      · have apart : '/' ≠ c := fun same => other (beq_iff_eq.2 same.symm)
        simpa [apart] using ih List.mem_cons_self
      · exact ih (List.mem_cons_of_mem _ later)

theorem isName_of_mem {path name : String} (inside : name ∈ names path) : IsName name := by
  rw [names_eq] at inside
  obtain ⟨among, kept⟩ := List.mem_filter.1 inside
  obtain ⟨part, split, rfl⟩ := List.mem_map.1 among
  obtain ⟨notEmpty, notDot⟩ := leads_iff.1 kept
  refine ⟨notEmpty, notDot, ?_⟩
  rw [String.toList_ofList]
  exact slash_notMem_splitOn split

/-- The names can be read off from a key. -/
theorem names_key {walked : List String} (named : ∀ name ∈ walked, IsName name) : names (key walked) = walked := by
  cases walked with
  | nil => decide
  | cons head rest =>
    have split : (key (head :: rest)).toList.splitOn '/' = (head :: rest).map String.toList := by
      rw [key, String.toList_intercalate]
      refine List.splitOn_intercalate '/' (fun part inside => ?_) (by simp)
      obtain ⟨name, among, rfl⟩ := List.mem_map.1 inside
      exact (named name among).whole
    have kept (name : String) (inside : name ∈ head :: rest) : leads name = true :=
      leads_iff.2 ⟨(named name inside).notEmpty, (named name inside).notDot⟩
    have back : ((head :: rest).map String.toList).map String.ofList = head :: rest := by
      simp
    rw [names_eq, split, back]
    exact List.filter_eq_self.2 kept

theorem key_inj {first second : List String} (named : ∀ name ∈ first, IsName name)
    (named' : ∀ name ∈ second, IsName name) : key first = key second ↔ first = second := by
  refine ⟨fun same => ?_, congrArg key⟩
  rw [← names_key named, ← names_key named', same]

/-- A text without a slash that is put behind a path becomes part of the last name. -/
theorem splitOn_append (chars tail : List Char) (whole : '/' ∉ tail) :
    ∃ front last, chars.splitOn '/' = front ++ [last] ∧ (chars ++ tail).splitOn '/' = front ++ [last ++ tail] := by
  induction chars with
  | nil => exact ⟨[], [], rfl, List.splitOn_eq_singleton whole⟩
  | cons c rest ih =>
    obtain ⟨front, last, split, longer⟩ := ih
    rw [List.cons_append, List.splitOn_cons_eq_if_modifyHead, List.splitOn_cons_eq_if_modifyHead, split, longer]
    by_cases slash : c == '/'
    · exact ⟨[] :: front, last, by simp [slash], by simp [slash]⟩
    · cases front with
      | nil => exact ⟨[], c :: last, by simp [slash], by simp [slash]⟩
      | cons head front => exact ⟨(c :: head) :: front, last, by simp [slash], by simp [slash]⟩

/-- The ending of the new file stays in the last name of its path, so that path does not lead to the old one. -/
theorem names_beside_not_prefix (path : String) : ¬ names (Files.besidePath path) <+: names path := by
  obtain ⟨front, last, split, longer⟩ := splitOn_append path.toList ".tmp".toList (by decide)
  have length : (String.ofList last ++ ".tmp").length = (String.ofList last).length + 4 :=
    String.length_append _ _
  have occupied : leads (String.ofList last ++ ".tmp") = true := by
    refine leads_iff.2 ⟨fun same => ?_, fun same => ?_⟩
    · rw [same] at length
      exact absurd length.symm (Nat.succ_ne_zero _)
    · rw [same] at length
      exact absurd (Nat.succ.inj length).symm (Nat.succ_ne_zero _)
  have beside : names (Files.besidePath path) =
      (front.map String.ofList).filter leads ++ [String.ofList last ++ ".tmp"] := by
    rw [names_eq, Files.besidePath, String.toList_append, longer, List.map_append, List.filter_append,
      List.map_singleton, String.ofList_append, String.ofList_toList, List.filter_cons_of_pos occupied, List.filter_nil]
  intro begins
  rw [beside, names_eq, split, List.map_append, List.filter_append, List.prefix_append_right_inj] at begins
  have same : String.ofList last ++ ".tmp" = String.ofList last := by
    have among := (List.mem_filter.1 (begins.subset List.mem_cons_self)).1
    exact List.mem_singleton.1 among
  rw [same] at length
  omega

theorem names_beside_ne (path : String) : names (Files.besidePath path) ≠ names path :=
  fun same => names_beside_not_prefix path (same ▸ List.prefix_refl _)

end Path

namespace Files

open VipKeeper.Path (IsName key names)

variable {first second : Files} {path : String} {walked : List String}

/-! ### The way to a path -/

/-- Further names can follow only a directory. -/
def enter : Option Content → Except FileProblem Unit
  | none => .error .missing
  | some .directory => .ok ()
  | some _ => .error .notDirectory

theorem enter_of_ne {content : Option Content} (other : content ≠ some .directory) :
    ∃ problem, enter content = .error problem := by
  match content with
  | none => exact ⟨.missing, rfl⟩
  | some (.file _) => exact ⟨.notDirectory, rfl⟩
  | some .directory => exact absurd rfl other
  | some .pipe => exact ⟨.notDirectory, rfl⟩

theorem walk_singleton (files : Files) (walked : List String) (name : String) :
    files.walk walked [name] = if Path.longestName < name.utf8ByteSize then .error .nameTooLong
      else .ok (files.contents.get? (key (walked ++ [name]))) := by
  simp only [walk]

theorem walk_cons (files : Files) (walked : List String) (name : String) {rest : List String} (further : rest ≠ []) :
    files.walk walked (name :: rest) = (files.walk walked [name]).bind (fun found =>
      (enter found).bind (fun () => files.walk (walked ++ [name]) rest)) := by
  obtain ⟨next, rest, rfl⟩ := List.exists_cons_of_ne_nil further
  rw [walk_singleton, walk]
  split
  · rfl
  · cases found : files.contents.get? (key (walked ++ [name])) with
    | none => simp only [found]; rfl
    | some content => cases content <;> simp only [found] <;> rfl

theorem walk_append (files : Files) (walked front : List String) {rest : List String} (further : rest ≠ []) :
    files.walk walked (front ++ rest) = (files.walk walked front).bind (fun found =>
      (enter found).bind (fun () => files.walk (walked ++ front) rest)) := by
  induction front generalizing walked with
  | nil => simp [walk, enter, Except.bind]
  | cons name front ih =>
    by_cases last : front = []
    · rw [last, List.singleton_append, walk_cons files walked name further]
    · rw [List.cons_append, walk_cons files walked name (List.append_ne_nil_of_left_ne_nil last rest), ih,
        walk_cons files walked name last, List.append_assoc, List.singleton_append]
      cases files.walk walked [name] with
      | error problem => rfl
      | ok found =>
        cases same : enter found with
        | error problem => simp only [Except.bind, same]
        | ok _ => simp only [Except.bind, same]

/-- Nothing is found below what is no directory. -/
theorem walk_append_of_ne {files : Files} {front rest : List String} (further : rest ≠ [])
    (other : files.walk walked front ≠ .ok (some .directory)) :
    ∃ problem, files.walk walked (front ++ rest) = .error problem := by
  rw [walk_append files walked front further]
  cases same : files.walk walked front with
  | error problem => exact ⟨problem, rfl⟩
  | ok found =>
    have bare : found ≠ some .directory := fun directory => other (by rw [same, directory])
    obtain ⟨problem, stopped⟩ := enter_of_ne bare
    exact ⟨problem, by simp only [Except.bind, stopped]⟩

/-- Something is seen at the end of a way if that leads to a directory and the last name is not too long. -/
theorem walk_concat_eq_ok_iff {files : Files} {front : List String} {last : String} {content : Option Content} :
    files.walk walked (front ++ [last]) = .ok content ↔
      files.walk walked front = .ok (some .directory) ∧ last.utf8ByteSize ≤ Path.longestName ∧
        files.contents.get? (key (walked ++ front ++ [last])) = content := by
  have further : [last] ≠ [] := List.cons_ne_nil last []
  by_cases directory : files.walk walked front = .ok (some .directory)
  · rw [walk_append files walked front further, directory]
    simp only [Except.bind, enter, walk_singleton, true_and]
    split
    next long => simp [Nat.not_le.2 long]
    next short => simp [Nat.not_lt.1 short]
  · obtain ⟨problem, failed⟩ := walk_append_of_ne further directory
    simp [failed, directory]

theorem walk_congr {rest : List String}
    (same : ∀ step, step ≠ [] → step <+: rest →
      second.contents.get? (key (walked ++ step)) = first.contents.get? (key (walked ++ step))) :
    second.walk walked rest = first.walk walked rest := by
  induction rest generalizing walked with
  | nil => rfl
  | cons name rest ih =>
    have here : second.walk walked [name] = first.walk walked [name] := by
      rw [walk_singleton, walk_singleton, same [name] (by simp) (by simp)]
    by_cases last : rest = []
    · rw [last, here]
    · have later : second.walk (walked ++ [name]) rest = first.walk (walked ++ [name]) rest := by
        refine ih (fun step _ begins => ?_)
        have longer := same (name :: step) (by simp) (by simpa using begins)
        simpa using longer
      rw [walk_cons second walked name last, walk_cons first walked name last, here, later]

/-! ### Changes at one path -/

/-- At one path there may lie something else, and nowhere else. -/
def SameBut (path : String) (first second : Files) : Prop :=
  ∀ here, here ≠ key (names path) → second.contents.get? here = first.contents.get? here

theorem SameBut.trans {third : Files} (same : SameBut path first second) (same' : SameBut path second third) :
    SameBut path first third :=
  fun here apart => (same' here apart).trans (same here apart)

theorem sameBut_put (files : Files) (path : String) (content : Content) :
    SameBut path files (files.put path content) := by
  intro here apart
  rw [put, OrderedMap.get?_insert, if_neg apart]

theorem sameBut_remove (files : Files) (path : String) : SameBut path files (files.remove path) := by
  intro here apart
  rw [remove, OrderedMap.get?_erase, if_neg apart]

/-- A way that does not lead through the path is not changed. -/
theorem SameBut.walk_eq (same : SameBut path first second) {way : List String} (named : ∀ name ∈ way, IsName name)
    (apart : ¬ names path <+: way) : second.walk [] way = first.walk [] way := by
  refine walk_congr (fun step _ begins => same _ (fun equal => apart ?_))
  have steps : ∀ name ∈ step, IsName name := fun name inside => named name (begins.subset inside)
  rw [List.nil_append, Path.key_inj steps (fun _ => Path.isName_of_mem)] at equal
  exact equal ▸ begins

theorem SameBut.find_eq (same : SameBut path first second) {other : String} (apart : ¬ names path <+: names other) :
    second.find other = first.find other :=
  same.walk_eq (fun _ => Path.isName_of_mem) apart

/-- What is read, listed or run at a path. -/
def lies (files : Files) (path : String) : Option Content :=
  (files.get path).toOption

theorem lies_of_find_error {files : Files} {problem : FileProblem} (found : files.find path = .error problem) :
    files.lies path = none := by
  rw [lies, get, found]
  rfl

theorem find_below {files : Files} {other : String} (bare : files.find path ≠ .ok (some .directory))
    (below : names path <+: names other) (apart : names other ≠ names path) :
    ∃ problem, files.find other = .error problem := by
  obtain ⟨rest, split⟩ := below
  have further : rest ≠ [] := fun nothing => apart (by rw [← split, nothing, List.append_nil])
  rw [find, ← split]
  exact walk_append_of_ne further bare

theorem lies_below {files : Files} {other : String} (bare : files.find path ≠ .ok (some .directory))
    (below : names path <+: names other) (apart : names other ≠ names path) : files.lies other = none := by
  obtain ⟨problem, failed⟩ := find_below bare below apart
  exact lies_of_find_error failed

/-- As long as no directory is at the path, all other files stay. -/
theorem SameBut.lies_eq (same : SameBut path first second) (bare : first.find path ≠ .ok (some .directory))
    (bare' : second.find path ≠ .ok (some .directory)) {other : String} (apart : names other ≠ names path) :
    second.lies other = first.lies other := by
  by_cases below : names path <+: names other
  · rw [lies_below bare below apart, lies_below bare' below apart]
  · rw [lies, lies, get, get, same.find_eq below]

/-! ### Paths at which a file can be written -/

/-- A file can be made or replaced here: the directory is there, and no directory is in the way. -/
structure Writable (files : Files) (path : String) (old : Option Content) : Prop where
  found : files.find path = .ok old
  bare : old ≠ some .directory

theorem Writable.find_ne {files : Files} {old : Option Content} (writable : files.Writable path old) :
    files.find path ≠ .ok (some .directory) := by
  rw [writable.found]
  exact fun same => writable.bare (Except.ok.inj same)

/-- The last step of the way to such a path is a look at what lies there. -/
theorem Writable.find_eq {old : Option Content} (writable : first.Writable path old) (same : SameBut path first second) :
    second.find path = .ok (second.contents.get? (key (names path))) := by
  rcases List.eq_nil_or_concat' (names path) with root | ⟨front, last, split⟩
  · have found := writable.found
    rw [find, root] at found
    exact absurd (Except.ok.inj found).symm writable.bare
  · have named : ∀ name ∈ front, IsName name := fun name inside =>
      Path.isName_of_mem (split ▸ List.mem_append_left _ inside)
    have way : second.walk [] front = first.walk [] front := by
      refine same.walk_eq named (fun begins => ?_)
      have short := begins.length_le
      rw [split, List.length_append, List.length_singleton] at short
      omega
    have found := writable.found
    rw [find, split, walk_concat_eq_ok_iff] at found
    rw [find, split, walk_concat_eq_ok_iff, way]
    exact ⟨found.1, found.2.1, rfl⟩

theorem Writable.put {files : Files} {old : Option Content} (writable : files.Writable path old) {content : Content}
    (bare : content ≠ .directory) : (files.put path content).Writable path (some content) where
  found := by
    rw [writable.find_eq (sameBut_put files path content), Files.put, OrderedMap.get?_insert_self]
  bare := fun same => bare (Option.some.inj same)

theorem Writable.remove {files : Files} {old : Option Content} (writable : files.Writable path old) :
    (files.remove path).Writable path none where
  found := by
    rw [writable.find_eq (sameBut_remove files path), Files.remove, OrderedMap.get?_erase_self]
  bare := nofun

/-- No file can be written below such a path. -/
theorem Writable.not_prefix {files : Files} {old now : Option Content} {other : String}
    (writable : files.Writable path old) (writable' : files.Writable other now) (apart : names other ≠ names path) :
    ¬ names path <+: names other := by
  intro below
  obtain ⟨problem, failed⟩ := find_below writable.find_ne below apart
  have found := writable'.found
  rw [failed] at found
  cases found

theorem write_eq_ok_iff {files made : Files} {bytes : List UInt8} :
    files.write path bytes = .ok made ↔
      (∃ old, files.Writable path old ∧ old ≠ some .pipe) ∧ made = files.put path (.file bytes) := by
  unfold write
  constructor
  · intro written
    split at written
    next => cases written
    next => cases written
    next => cases written
    next old other other' found =>
      exact ⟨⟨old, ⟨found, other⟩, other'⟩, (Except.ok.inj written).symm⟩
  · rintro ⟨⟨old, writable, safe⟩, rfl⟩
    rw [writable.found]
    split
    next failed => cases failed
    next found => exact absurd (Except.ok.inj found) writable.bare
    next found => exact absurd (Except.ok.inj found) safe
    next => rfl

end Files

end VipKeeper
