import VipKeeper.Daemon.Keepalived
import VipKeeper.Proofs.Host.Files

/-! A file that is replaced shows its old or its new content, whenever it is looked at and whatever fails.

Every path has a file of its own: links are left out. -/

namespace VipKeeper

namespace Files

open VipKeeper.Path (names)

variable {files : Files} {path : String} {bytes : List UInt8}

theorem rename_eq_ok_iff {source target : String} {moved : Files} :
    files.rename source target = .ok moved ↔ ∃ content, files.get source = .ok content ∧
      (∃ old, files.Writable target old) ∧ moved = (files.remove source).put target content := by
  unfold rename
  constructor
  · intro renamed
    split at renamed
    next => cases renamed
    next => cases renamed
    next => cases renamed
    next content old other got found =>
      exact ⟨content, got, ⟨old, found, other⟩, (Except.ok.inj renamed).symm⟩
  · rintro ⟨content, got, ⟨old, writable⟩, rfl⟩
    rw [got, writable.found]
    split
    next problem _ failed => cases failed
    next problem _ failed => cases failed
    next found => exact absurd (Except.ok.inj found) writable.bare
    next same _ => rw [Except.ok.inj same]

/-! ### The course of a replacement -/

/-- The new file is made. -/
def created (files : Files) (path : String) : Files :=
  files.put (besidePath path) (.file [])

/-- Something is written to the new file. -/
def drafted (files : Files) (path : String) (draft : List UInt8) : Files :=
  (files.created path).put (besidePath path) (.file draft)

/-- The new file has taken the place of the old one. -/
def replaced (files : Files) (path : String) (bytes : List UInt8) : Files :=
  ((files.drafted path bytes).remove (besidePath path)).put path (.file bytes)

/-- A replacement fails before the new file is made, fails before that is moved, or comes to its end. -/
inductive Course (files : Files) (path : String) (bytes : List UInt8) : List Files × Except FileProblem Unit → Prop
  | refused (problem : FileProblem) : Course files path bytes ([files], .error problem)
  | broken {beside : Option Content} (writable : files.Writable (besidePath path) beside) (draft : List UInt8)
      (problem : FileProblem) :
      Course files path bytes ([files.drafted path draft, files.created path, files], .error problem)
  | done {beside old : Option Content} (writable : files.Writable (besidePath path) beside)
      (bare : files.Writable path old) :
      Course files path bytes
        ([files.replaced path bytes, files.drafted path bytes, files.created path, files], .ok ())

theorem writable_created {beside : Option Content} (writable : files.Writable (besidePath path) beside) :
    (files.created path).Writable (besidePath path) (some (.file [])) :=
  writable.put nofun

theorem writable_drafted {beside : Option Content} (writable : files.Writable (besidePath path) beside)
    (draft : List UInt8) : (files.drafted path draft).Writable (besidePath path) (some (.file draft)) :=
  (writable_created writable).put nofun

theorem sameBut_drafted (files : Files) (path : String) (draft : List UInt8) :
    SameBut (besidePath path) files (files.drafted path draft) :=
  (sameBut_put files _ _).trans (sameBut_put _ _ _)

/-- What is done beside a path does not touch it. -/
theorem SameBut.find_beside {first second : Files} (same : SameBut (besidePath path) first second) :
    second.find path = first.find path :=
  same.find_eq (Path.names_beside_not_prefix path)

theorem SameBut.writable_beside_iff {first second : Files} {old : Option Content}
    (same : SameBut (besidePath path) first second) : second.Writable path old ↔ first.Writable path old :=
  ⟨fun writable => ⟨same.find_beside.symm.trans writable.found, writable.bare⟩,
    fun writable => ⟨same.find_beside.trans writable.found, writable.bare⟩⟩

theorem rename_drafted {beside : Option Content} (writable : files.Writable (besidePath path) beside)
    (bytes : List UInt8) {moved : Files} :
    (files.drafted path bytes).rename (besidePath path) path = .ok moved ↔
      (∃ old, files.Writable path old) ∧ moved = files.replaced path bytes := by
  have got : (files.drafted path bytes).get (besidePath path) = .ok (.file bytes) := by
    rw [get, (writable_drafted writable bytes).found]
  simp only [rename_eq_ok_iff, got, Except.ok.injEq, exists_eq_left', (sameBut_drafted files path bytes).writable_beside_iff,
    replaced]

theorem course_replaceSteps (files : Files) (path : String) (bytes : List UInt8) (accident : Accident) :
    Course files path bytes (files.replaceSteps path bytes accident) := by
  cases made : files.write (besidePath path) [] with
  | error problem =>
    cases accident <;> simp only [replaceSteps, made] <;> exact .refused _
  | ok first =>
    obtain ⟨⟨beside, writable, -⟩, rfl⟩ := write_eq_ok_iff.1 made
    cases accident with
    | creating problem => exact .refused problem
    | writing count problem =>
      simp only [replaceSteps, made]
      exact .broken writable (bytes.take count) problem
    | syncing problem =>
      simp only [replaceSteps, made]
      exact .broken writable bytes problem
    | «renaming» problem =>
      simp only [replaceSteps, made]
      exact .broken writable bytes problem
    | none =>
      have written : (files.put (besidePath path) (.file [])).put (besidePath path) (.file bytes) =
        files.drafted path bytes := rfl
      simp only [replaceSteps, made, written]
      cases moved : (files.drafted path bytes).rename (besidePath path) path with
      | error problem => exact .broken writable bytes problem
      | ok renamed =>
        obtain ⟨⟨old, bare⟩, rfl⟩ := (rename_drafted writable bytes).1 moved
        exact .done writable bare

/-! ### What is seen of a replacement -/

/-- What a moment of a replacement shows at the path and anywhere else. -/
structure Glimpse (files : Files) (path : String) (bytes : List UInt8) (moment : Files) : Prop where
  whole : moment.find path = files.find path ∨ moment.find path = .ok (some (.file bytes))
  elsewhere : ∀ other, names other ≠ names path → names other ≠ names (besidePath path) →
    moment.lies other = files.lies other

theorem glimpse_start (files : Files) (path : String) (bytes : List UInt8) : Glimpse files path bytes files :=
  ⟨.inl rfl, fun _ _ _ => rfl⟩

theorem glimpse_beside {beside : Option Content} {moment : Files}
    (writable : files.Writable (besidePath path) beside) (same : SameBut (besidePath path) files moment)
    {now : Option Content} (writable' : moment.Writable (besidePath path) now) (bytes : List UInt8) :
    Glimpse files path bytes moment :=
  ⟨.inl same.find_beside, fun _ _ apart => same.lies_eq writable.find_ne writable'.find_ne apart⟩

theorem glimpse_created {beside : Option Content} (writable : files.Writable (besidePath path) beside)
    (bytes : List UInt8) : Glimpse files path bytes (files.created path) :=
  glimpse_beside writable (sameBut_put files _ _) (writable_created writable) bytes

theorem glimpse_drafted {beside : Option Content} (writable : files.Writable (besidePath path) beside)
    (draft bytes : List UInt8) : Glimpse files path bytes (files.drafted path draft) :=
  glimpse_beside writable (sameBut_drafted files path draft) (writable_drafted writable draft) bytes

/-- What is left when the new file has taken its place. -/
structure Finished (path : String) (bytes : List UInt8) (last : Files) : Prop where
  holds : last.find path = .ok (some (.file bytes))
  tidy : last.find (besidePath path) = .ok none

section

variable {beside old : Option Content}

/-- Between the two halves of the move nothing lies beside the path. -/
theorem writable_removed (writable : files.Writable (besidePath path) beside) (bytes : List UInt8) :
    ((files.drafted path bytes).remove (besidePath path)).Writable (besidePath path) none :=
  (writable_drafted writable bytes).remove

theorem sameBut_removed (files : Files) (path : String) (bytes : List UInt8) :
    SameBut (besidePath path) files ((files.drafted path bytes).remove (besidePath path)) :=
  (sameBut_drafted files path bytes).trans (sameBut_remove _ _)

theorem writable_replaced (bare : files.Writable path old) (bytes : List UInt8) :
    (files.replaced path bytes).Writable path (some (.file bytes)) :=
  ((sameBut_removed files path bytes).writable_beside_iff.2 bare).put nofun

theorem finished_replaced (writable : files.Writable (besidePath path) beside) (bare : files.Writable path old)
    (bytes : List UInt8) : Finished path bytes (files.replaced path bytes) := by
  have removed := writable_removed writable bytes
  have bare' := (sameBut_removed files path bytes).writable_beside_iff.2 bare
  refine ⟨(writable_replaced bare bytes).found, ?_⟩
  have apart := bare'.not_prefix removed (Path.names_beside_ne path)
  exact ((sameBut_put _ path (.file bytes)).find_eq apart).trans removed.found

theorem glimpse_replaced (writable : files.Writable (besidePath path) beside) (bare : files.Writable path old)
    (bytes : List UInt8) : Glimpse files path bytes (files.replaced path bytes) := by
  have same := sameBut_removed files path bytes
  have bare' := same.writable_beside_iff.2 bare
  refine ⟨.inr (writable_replaced bare bytes).found, fun other apart apart' => ?_⟩
  have moved := (sameBut_put _ path (.file bytes)).lies_eq bare'.find_ne (writable_replaced bare bytes).find_ne apart
  exact moved.trans (same.lies_eq writable.find_ne (writable_removed writable bytes).find_ne apart')

end

/-- How the files are left: at an error the path is as it was. -/
def Settled (files : Files) (path : String) (bytes : List UInt8) (last : Files) : Except FileProblem Unit → Prop
  | .error _ => last.find path = files.find path
  | .ok () => Finished path bytes last

/-- What is seen while a file is replaced: the moments, and between them the new file with what is written so far. -/
inductive Seen (files : Files) (path : String) (bytes : List UInt8) (accident : Accident) : Files → Prop
  | moment {moment : Files} (among : moment ∈ (files.replaceSteps path bytes accident).1) :
      Seen files path bytes accident moment
  | writing {first : Files} (made : files.write (besidePath path) [] = .ok first) (count : Nat) :
      Seen files path bytes accident (first.put (besidePath path) (.file (bytes.take count)))

theorem Course.glimpse {steps : List Files × Except FileProblem Unit} (course : Course files path bytes steps) :
    ∀ moment ∈ steps.1, Glimpse files path bytes moment := by
  have start := glimpse_start files path bytes
  cases course with
  | refused problem => simpa using start
  | broken writable draft problem =>
    have made := glimpse_created writable bytes
    simpa using ⟨glimpse_drafted writable draft bytes, made, start⟩
  | done writable bare =>
    have made := glimpse_created writable bytes
    simpa using ⟨glimpse_replaced writable bare bytes, glimpse_drafted writable bytes bytes, made, start⟩

theorem Course.settled {steps : List Files × Except FileProblem Unit} (course : Course files path bytes steps) :
    ∃ last earlier, steps.1 = last :: earlier ∧ Settled files path bytes last steps.2 := by
  cases course with
  | refused problem => exact ⟨files, [], rfl, rfl⟩
  | broken writable draft problem => exact ⟨_, _, rfl, (sameBut_drafted files path draft).find_beside⟩
  | done writable bare => exact ⟨_, _, rfl, finished_replaced writable bare bytes⟩

/-- Whatever is there before and wherever it breaks off: at every moment of a replacement the path shows its old content
or the new one, and no other path but the one beside it shows a change. At an error the old content is left, and
otherwise the new one with nothing beside it. -/
theorem replaced_as_whole (files : Files) (path : String) (bytes : List UInt8) (accident : Accident) :
    (∀ moment, Seen files path bytes accident moment → Glimpse files path bytes moment) ∧
      ∃ last earlier, (files.replaceSteps path bytes accident).1 = last :: earlier ∧
        Settled files path bytes last (files.replaceSteps path bytes accident).2 := by
  have course := course_replaceSteps files path bytes accident
  refine ⟨fun moment seen => ?_, course.settled⟩
  cases seen with
  | moment among => exact course.glimpse moment among
  | writing made count =>
    obtain ⟨⟨beside, writable, -⟩, rfl⟩ := write_eq_ok_iff.1 made
    exact glimpse_drafted writable (bytes.take count) bytes

/-- The new content is half written beside the old one. -/
theorem replaced_as_whole_halfway :
    let files := empty.put "conf" (.file [1, 2])
    (files.drafted "conf" [3]).find "conf.tmp" = .ok (some (.file [3])) ∧
      Glimpse files "conf" [3, 4] (files.drafted "conf" [3]) := by
  intro files
  have writable : files.Writable (besidePath "conf") none := ⟨by decide +kernel, nofun⟩
  have made : files.write (besidePath "conf") [] = .ok (files.created "conf") := write_eq_ok_iff.2
    ⟨⟨none, writable, nofun⟩, rfl⟩
  refine ⟨(writable_drafted writable [3]).found, ?_⟩
  exact (replaced_as_whole files "conf" [3, 4] .none).1 _ (.writing made 1)

theorem moved_iff {beside : Option Content} (writable : files.Writable (besidePath path) beside)
    (safe : beside ≠ some .pipe) :
    (files.replaceSteps path bytes .none).2 = .ok () ↔ ∃ old, files.Writable path old := by
  have made : files.write (besidePath path) [] = .ok (files.created path) :=
    write_eq_ok_iff.2 ⟨⟨beside, writable, safe⟩, rfl⟩
  have written : (files.created path).put (besidePath path) (.file bytes) = files.drafted path bytes := rfl
  simp only [replaceSteps, made, written]
  cases moved : (files.drafted path bytes).rename (besidePath path) path with
  | error problem =>
    have blocked : ¬ ∃ old, files.Writable path old := by
      intro bare
      rw [(rename_drafted writable bytes).2 ⟨bare, rfl⟩] at moved
      cases moved
    simpa using blocked
  | ok renamed => simpa using ((rename_drafted writable bytes).1 moved).1

/-- A replacement succeeds exactly if no accident happens and files can be written at both paths. -/
theorem replaceSteps_eq_ok_iff {accident : Accident} :
    (files.replaceSteps path bytes accident).2 = .ok () ↔ accident = .none ∧
      (∃ beside, files.Writable (besidePath path) beside ∧ beside ≠ some .pipe) ∧ ∃ old, files.Writable path old := by
  cases made : files.write (besidePath path) [] with
  | error problem =>
    have blocked : ¬ ∃ beside, files.Writable (besidePath path) beside ∧ beside ≠ some .pipe := by
      intro writable
      rw [write_eq_ok_iff.2 ⟨writable, rfl⟩] at made
      cases made
    have failed : (files.replaceSteps path bytes accident).2 ≠ .ok () := by
      cases accident <;> simp [replaceSteps, made]
    simp only [blocked, failed, false_and, and_false]
  | ok first =>
    obtain ⟨could, -⟩ := write_eq_ok_iff.1 made
    cases accident with
    | none =>
      obtain ⟨beside, writable, safe⟩ := id could
      simp only [moved_iff writable safe, could, true_and]
    | creating problem => simp [replaceSteps]
    | writing count problem => simp [replaceSteps, made]
    | syncing problem => simp [replaceSteps, made]
    | «renaming» problem => simp [replaceSteps, made]

theorem settled_replace (files : Files) (path : String) (bytes : List UInt8) :
    Settled files path bytes (files.replace path bytes).1 (files.replace path bytes).2 := by
  obtain ⟨last, earlier, moments, settled⟩ := (course_replaceSteps files path bytes .none).settled
  simp only [replace, moments]
  exact settled

end Files

/-- After an installation the daemon finds the whole new text, or what it would have found before. -/
theorem Keepalived.settled_install (daemon : Keepalived) (text : String) (host : Host) :
    ∃ result, (daemon.install text host).1 = result.mapError FileProblem.fault ∧
      Files.Settled host.files daemon.configPath text.toUTF8.toList (daemon.install text host).2.files result :=
  ⟨(host.files.replace daemon.configPath text.toUTF8.toList).2, rfl, Files.settled_replace _ _ _⟩

end VipKeeper
