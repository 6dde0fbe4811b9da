import Mathlib.Data.List.Basic
import VipKeeper.Proofs.Sync.Journal

/-! When a text is installed again.

Over a run of passes the record of a key holds the text of the last installation that the daemon has read, as long as
the object is not deleted. So the same text is installed twice in a row only after a failure or a deletion. -/

namespace VipKeeper.Sync

/-- A line in the journal of a run: a call of a pass, or the end of the pass. -/
inductive Line where
  | call (call : Call)
  | ended (result : Except Failure Outcome)
  deriving DecidableEq

namespace Line

def install? : Line → Option (String × Except Mishap Unit)
  | call (.install text done) => some (text, done)
  | _ => none

def reload? : Line → Option (Except Mishap Unit)
  | call (.reload done) => some done
  | _ => none

/-- The text that stands after a line: the last one that was installed, unless the daemon has not read it or the object
was deleted. -/
def standing (text : Option String) : Line → Option String
  | call (.install text (.ok ())) => some text
  | call (.install _ (.error _)) | call (.reload (.error _)) | ended (.ok .deleted) => none
  | call (.object _ _) | call (.membership _) | call (.reload (.ok ())) | ended _ => text

end Line

def Passage.lines (ended : Passage) : List Line :=
  ended.calls.map .call ++ [.ended ended.result]

/-- All that passes for one key ask for and come to, one pass after the other. -/
def journal (site : Site) (key : ObjectKey) (record : Record) : List Circumstances → List Line
  | [] => []
  | now :: rest => (now.passage site key record).lines ++ journal site key (now.passage site key record).record rest

def recordAfter (site : Site) (key : ObjectKey) (record : Record) (past : List Circumstances) : Record :=
  past.foldl (fun record now => (now.passage site key record).record) record

variable {site : Site} {key : ObjectKey} {record : Record}

/-- Every line of a journal is one of a pass. -/
theorem exists_pass_of_journal {past : List Circumstances} {front rest : List Line} {line : Line}
    (split : journal site key record past = front ++ line :: rest) :
    ∃ (earlier : List Circumstances) (now : Circumstances) (before after : List Line),
      front = journal site key record earlier ++ before ∧
        (now.passage site key (recordAfter site key record earlier)).lines = before ++ line :: after := by
  induction past generalizing record front with
  | nil => simp [journal] at split
  | cons now later ih =>
    rw [journal] at split
    have deeper (front : List Line)
        (further : journal site key (now.passage site key record).record later = front ++ line :: rest) :
        ∃ (earlier : List Circumstances) (other : Circumstances) (before after : List Line),
          (now.passage site key record).lines ++ front = journal site key record earlier ++ before ∧
            (other.passage site key (recordAfter site key record earlier)).lines = before ++ line :: after := by
      obtain ⟨earlier, other, before, after, rfl, lines⟩ := ih further
      exact ⟨now :: earlier, other, before, after, by rw [journal, List.append_assoc], lines⟩
    rcases List.append_eq_append_iff.1 split with ⟨behind, rfl, further⟩ | ⟨behind, lines, further⟩
    · exact deeper behind further
    · cases behind with
      | nil =>
        obtain rfl : (now.passage site key record).lines = front := by simpa using lines
        simpa using deeper [] further.symm
      | cons head behind =>
        obtain ⟨rfl, -⟩ := List.cons.inj further
        exact ⟨[], now, front, behind, rfl, lines⟩

/-! ### What stands is recorded -/

/-- A text that stands is the recorded one. -/
def Stands (key : ObjectKey) (record : Record) (text : Option String) : Prop :=
  ∀ standing, text = some standing → record.artifacts.get? key = some standing

theorem foldl_standing_eq {text : Option String} {lines : List Line}
    (idle : ∀ line ∈ lines, Line.standing text line = text) : lines.foldl Line.standing text = text := by
  induction lines with
  | nil => rfl
  | cons line rest ih =>
    rw [List.foldl_cons, idle line List.mem_cons_self]
    exact ih (fun other inside => idle other (List.mem_cons_of_mem _ inside))

theorem foldl_standing_asked {now : Circumstances} {asked : List Call} (first : asked <+: now.questions key)
    (text : Option String) : (asked.map Line.call).foldl Line.standing text = text := by
  refine foldl_standing_eq (fun line inside => ?_)
  obtain ⟨call, among, rfl⟩ := List.mem_map.1 inside
  rcases Exit.asked_of_mem first among with rfl | rfl <;> rfl

theorem Stands.exit {now : Circumstances} {ended : Passage} {text : Option String} (stands : Stands key record text)
    (exit : Exit site key record now ended) : Stands key ended.record (ended.lines.foldl Line.standing text) := by
  cases exit with
  | failed failure asked first =>
    rw [Passage.lines, List.foldl_append, foldl_standing_asked first]
    exact stands
  | stale | unchanged => exact stands
  | deleted | uninstalled | unread => simp [Stands, Passage.lines, Circumstances.questions, Line.standing]
  | installed draft => simp [Stands, Passage.lines, Circumstances.questions, Line.standing, Record.note]

/-- Nothing but questions comes before an installation, and nothing but a reload comes after it. -/
theorem Exit.front_of_attempt {now : Circumstances} {ended : Passage} (exit : Exit site key record now ended)
    {front rest : List Line} {text : String} {done : Except Mishap Unit}
    (split : ended.lines = front ++ .call (.install text done) :: rest) :
    front = (now.questions key).map .call ∧ ∃ draft, now.Due site key record draft ∧ text = draft.artifact := by
  have attempt : .install text done ∈ ended.calls := by
    have inside : Line.call (.install text done) ∈ ended.lines := by simp [split]
    simpa [Passage.lines] using inside
  have unasked : Line.call (.install text done) ∉ (now.questions key).map .call := by simp [Circumstances.questions]
  obtain ⟨told, -⟩ := exit.attempted attempt
  refine ⟨?_, told⟩
  cases exit with
  | failed failure asked first => simpa using Exit.asked_of_mem first attempt
  | deleted | stale | unchanged => simp [Circumstances.questions] at attempt
  | uninstalled draft due mishap | unread draft due mishap | installed draft due =>
    rw [Passage.lines, List.map_append, List.append_assoc] at split
    exact ((List.append_cons_inj_of_notMem unasked (by simp)).1 split).1.symm

theorem Exit.front_of_reload {now : Circumstances} {ended : Passage} (exit : Exit site key record now ended)
    {front rest : List Line} {done : Except Mishap Unit} (split : ended.lines = front ++ .call (.reload done) :: rest) :
    ∃ text, front = (now.questions key).map .call ++ [.call (.install text (.ok ()))] := by
  have told : .reload done ∈ ended.calls := by
    have inside : Line.call (.reload done) ∈ ended.lines := by simp [split]
    simpa [Passage.lines] using inside
  obtain ⟨text, calls⟩ := exit.ordered told
  refine ⟨text, ?_⟩
  have unasked : Line.call (.reload done) ∉ (now.questions key).map .call ++ [.call (.install text (.ok ()))] := by
    simp [Circumstances.questions]
  have lines : ended.lines = (now.questions key).map .call ++ [.call (.install text (.ok ()))] ++
      .call (.reload done) :: [.ended ended.result] := by
    simp [Passage.lines, calls]
  exact ((List.append_cons_inj_of_notMem unasked (by simp)).1 (lines.symm.trans split)).1.symm

/-- A pass does not install what stands. -/
theorem Stands.ne_of_exit {now : Circumstances} {ended : Passage} {text : Option String}
    (stands : Stands key record text) (exit : Exit site key record now ended) {front rest : List Line}
    {wanted : String} {done : Except Mishap Unit}
    (split : ended.lines = front ++ .call (.install wanted done) :: rest) :
    front.foldl Line.standing text ≠ some wanted := by
  obtain ⟨rfl, draft, due, rfl⟩ := exit.front_of_attempt split
  rw [foldl_standing_asked List.prefix_rfl]
  exact fun stood => due.apart (stands _ stood)

theorem Stands.journal {text : Option String} (stands : Stands key record text) (past : List Circumstances) :
    Stands key (recordAfter site key record past) ((journal site key record past).foldl Line.standing text) := by
  induction past generalizing record text with
  | nil => exact stands
  | cons now later ih =>
    rw [Sync.journal, List.foldl_append]
    exact ih (stands.exit (now.exit_passage site key record))

/-- No pass of a run installs what stands. -/
theorem Stands.ne_of_journal {past : List Circumstances} {text : Option String} (stands : Stands key record text)
    {front rest : List Line} {wanted : String} {done : Except Mishap Unit}
    (split : Sync.journal site key record past = front ++ .call (.install wanted done) :: rest) :
    front.foldl Line.standing text ≠ some wanted := by
  obtain ⟨earlier, now, before, after, rfl, lines⟩ := exists_pass_of_journal split
  rw [List.foldl_append]
  exact (stands.journal earlier).ne_of_exit (now.exit_passage site key _) lines

/-- Whenever the daemon is told to read, it was given a text just before. -/
theorem install_of_reload {past : List Circumstances} {front rest : List Line} {done : Except Mishap Unit}
    (split : journal site key record past = front ++ .call (.reload done) :: rest) :
    ∃ text, front.getLast? = some (.call (.install text (.ok ()))) := by
  obtain ⟨earlier, now, before, after, rfl, lines⟩ := exists_pass_of_journal split
  obtain ⟨text, rfl⟩ := (now.exit_passage site key _).front_of_reload lines
  exact ⟨text, by rw [← List.append_assoc, List.getLast?_concat]⟩

/-- A reload between two installations in a row is that of the first. -/
theorem reload_between {past : List Circumstances} {front between rest : List Line} {text : String}
    {done ended : Except Mishap Unit} {next : Line}
    (split : journal site key record past = front ++ .call (.install text done) :: (between ++ next :: rest))
    (consecutive : ∀ other ended, .call (.install other ended) ∉ between)
    (inside : .call (.reload ended) ∈ between) : ∃ later, between = .call (.reload ended) :: later := by
  obtain ⟨before, later, rfl⟩ := List.append_of_mem inside
  have shifted : journal site key record past = (front ++ .call (.install text done) :: before) ++
      .call (.reload ended) :: (later ++ next :: rest) := by simpa using split
  obtain ⟨other, last⟩ := install_of_reload shifted
  rcases List.eq_nil_or_concat' before with rfl | ⟨earlier, final, rfl⟩
  · exact ⟨later, rfl⟩
  · rw [← List.cons_append, ← List.append_assoc, List.getLast?_concat] at last
    obtain rfl := Option.some.inj last
    exact absurd (by simp) (consecutive other (.ok ()))

/-! ### Passes that find nothing new -/

theorem Circumstances.Compiles.unique {now : Circumstances} {draft draft' : Draft}
    (compiles : now.Compiles site key draft) (compiles' : now.Compiles site key draft') : draft = draft' := by
  obtain ⟨balancer, membership, object, nodes, drafted⟩ := compiles
  obtain ⟨_, _, object', nodes', drafted'⟩ := compiles'
  cases object.symm.trans object'
  cases nodes.symm.trans nodes'
  exact Except.ok.inj (drafted.symm.trans drafted')

/-- A pass that compiles a text and does not fail leaves the daemon alone, or it installs the text where it was not
recorded. -/
theorem Exit.of_compiles {now : Circumstances} {ended : Passage} (exit : Exit site key record now ended) {draft : Draft}
    (compiles : now.Compiles site key draft) (unfailed : ∀ failure, ended.result ≠ .error failure) :
    (ended.record = record ∧ ended.lines.filterMap Line.install? = [] ∧ ended.lines.filterMap Line.reload? = [] ∧
        (ended.result = .ok .stale ∨ record.artifacts.get? key = some draft.artifact)) ∨
      (record.artifacts.get? key ≠ some draft.artifact ∧ ended.record.artifacts.get? key = some draft.artifact ∧
        ended.lines.filterMap Line.install? = [(draft.artifact, .ok ())] ∧
        ended.lines.filterMap Line.reload? = [.ok ()]) := by
  cases exit with
  | failed failure | uninstalled _ _ _ | unread _ _ _ => exact absurd rfl (unfailed _)
  | deleted gone =>
    obtain ⟨_, _, present, -⟩ := compiles
    cases gone.symm.trans present
  | stale => exact .inl ⟨rfl, rfl, rfl, .inl rfl⟩
  | unchanged found compiled holds =>
    obtain rfl := compiles.unique compiled
    exact .inl ⟨rfl, rfl, rfl, .inr holds⟩
  | installed found due =>
    obtain rfl := compiles.unique due.compiles
    exact .inr ⟨due.apart, by simp [Record.note], rfl, rfl⟩

/-- Passes of which each compiles a text, and none fails. -/
structure Steadily (site : Site) (key : ObjectKey) (record : Record) (text : String) (past : List Circumstances) :
    Prop where
  compiles : ∀ now ∈ past, ∃ draft, now.Compiles site key draft ∧ draft.artifact = text
  unfailed : ∀ failure, .ended (.error failure) ∉ journal site key record past

theorem Steadily.tail {now : Circumstances} {text : String} {rest : List Circumstances}
    (steadily : Steadily site key record text (now :: rest)) :
    Steadily site key (now.passage site key record).record text rest :=
  ⟨fun other inside => steadily.compiles other (List.mem_cons_of_mem _ inside),
    fun failure inside => steadily.unfailed failure (List.mem_append_right _ inside)⟩

theorem Steadily.head {now : Circumstances} {text : String} {rest : List Circumstances}
    (steadily : Steadily site key record text (now :: rest)) (failure : Failure) :
    (now.passage site key record).result ≠ .error failure := by
  intro failed
  refine steadily.unfailed failure (List.mem_append_left _ ?_)
  simp [Passage.lines, failed]

theorem Steadily.nothing {past : List Circumstances} {text : String}
    (steadily : Steadily site key record text past) (holds : record.artifacts.get? key = some text) :
    (journal site key record past).filterMap Line.install? = [] ∧
      (journal site key record past).filterMap Line.reload? = [] := by
  induction past generalizing record with
  | nil => exact ⟨rfl, rfl⟩
  | cons now rest ih =>
    obtain ⟨draft, compiles, rfl⟩ := steadily.compiles now List.mem_cons_self
    rw [journal, List.filterMap_append, List.filterMap_append]
    rcases (now.exit_passage site key record).of_compiles compiles steadily.head with
      ⟨same, installs, reloads, -⟩ | ⟨apart, -⟩
    · rw [installs, reloads]
      exact ih steadily.tail (by rw [same, holds])
    · exact absurd holds apart

theorem Steadily.once {past : List Circumstances} {text : String}
    (steadily : Steadily site key record text past) (apart : record.artifacts.get? key ≠ some text)
    {result : Except Failure Outcome} (met : result ≠ .ok .stale)
    (inside : .ended result ∈ journal site key record past) :
    (journal site key record past).filterMap Line.install? = [(text, .ok ())] ∧
      (journal site key record past).filterMap Line.reload? = [.ok ()] := by
  induction past generalizing record with
  | nil => simp [journal] at inside
  | cons now rest ih =>
    obtain ⟨draft, compiles, rfl⟩ := steadily.compiles now List.mem_cons_self
    rw [journal, List.filterMap_append, List.filterMap_append]
    rcases (now.exit_passage site key record).of_compiles compiles steadily.head with
      ⟨same, installs, reloads, either⟩ | ⟨-, holds, installs, reloads⟩
    · have stale := either.resolve_right apart
      have later : .ended result ∈ journal site key (now.passage site key record).record rest := by
        refine (List.mem_append.1 inside).resolve_left (fun first => met ?_)
        simpa [Passage.lines, stale] using first
      rw [installs, reloads]
      exact ih steadily.tail (by rwa [same]) later
    · obtain ⟨none, none'⟩ := steadily.tail.nothing holds
      rw [installs, reloads, none, none']
      exact ⟨rfl, rfl⟩

/-! ### All runs -/

/-- Between two installations of one text in a row the first has failed, itself or in the reload that follows it, or the
object was deleted. So passes that compile one text and do not fail install it once and have it read once, however many
they are. -/
theorem installs_not_repeated (site : Site) (key : ObjectKey) (record : Record) (past : List Circumstances) :
    (∀ front between rest text done done',
      journal site key record past =
          front ++ .call (.install text done) :: (between ++ .call (.install text done') :: rest) →
        (∀ other ended, .call (.install other ended) ∉ between) →
          (∃ mishap, done = .error mishap) ∨
            (∃ mishap later, between = .call (.reload (.error mishap)) :: later) ∨ .ended (.ok .deleted) ∈ between) ∧
    ∀ text, record.artifacts.get? key ≠ some text → Steadily site key record text past →
      (∃ result, result ≠ .ok .stale ∧ .ended result ∈ journal site key record past) →
        (journal site key record past).filterMap Line.install? = [(text, .ok ())] ∧
          (journal site key record past).filterMap Line.reload? = [.ok ()] := by
  refine ⟨?_, fun text apart steadily ⟨result, met, inside⟩ => steadily.once apart met inside⟩
  intro front between rest text done done' split consecutive
  by_contra undisturbed
  simp only [not_or, not_exists] at undisturbed
  obtain ⟨succeeded, unfailed, kept⟩ := undisturbed
  obtain rfl : done = .ok () := by
    cases done with
    | ok => rfl
    | error mishap => exact absurd rfl (succeeded mishap)
  have read (mishap : Mishap) : .call (.reload (.error mishap)) ∉ between := by
    intro inside
    obtain ⟨later, same⟩ := reload_between split consecutive inside
    exact unfailed mishap later same
  -- The text that was installed still stands when it is installed again.
  have stands : Stands key record none := fun _ none => by cases none
  rw [← List.cons_append, ← List.append_assoc] at split
  have apart := stands.ne_of_journal split
  rw [List.foldl_append, List.foldl_cons] at apart
  refine apart (foldl_standing_eq (fun line inside => ?_))
  match line with
  | .call (.install other ended) => exact absurd inside (consecutive other ended)
  | .call (.reload (.error mishap)) => exact absurd inside (read mishap)
  | .ended (.ok .deleted) => exact absurd inside kept
  | .call (.object _ _) | .call (.membership _) | .call (.reload (.ok ())) | .ended (.ok .installed)
  | .ended (.ok .unchanged) | .ended (.ok .stale) | .ended (.error _) => rfl

/-- The text for a load balancer that declares no more than it must. -/
def plainText : String :=
  ((Draft.ofBalancer ⟨none, none⟩ ⟨"kube-system", "lb"⟩ (.plain 100) .empty).toOption.map Draft.artifact).getD ""

/-- A pass for an object that is gone. -/
def vanishing : Circumstances :=
  ⟨none, .ok none, .ok .empty, .ok (), .ok ()⟩

/-- The object is deleted and declared anew. -/
def anew : List Circumstances :=
  [Reconciler.fetching 100 (.ok ()), vanishing, Reconciler.fetching 100 (.ok ())]

def inquiry : List Line :=
  [.call (.object ⟨"kube-system", "lb"⟩ (.ok (some (.plain 100)))), .call (.membership (.ok .empty))]

/-- What comes between the two installations. -/
def absence : List Line :=
  [.call (.reload (.ok ())), .ended (.ok .installed), .call (.object ⟨"kube-system", "lb"⟩ (.ok none)),
    .ended (.ok .deleted)] ++ inquiry

/-- The first of these passes is for another object. -/
def lasting : List Circumstances :=
  [{ Reconciler.fetching 100 (.ok ()) with trigger := some "v" }, Reconciler.fetching 100 (.ok ()),
    Reconciler.fetching 100 (.ok ())]

theorem steadily_lasting : Steadily ⟨none, none⟩ ⟨"kube-system", "lb"⟩ .empty plainText lasting := by
  have drafted : Draft.ofBalancer ⟨none, none⟩ ⟨"kube-system", "lb"⟩ (.plain 100) .empty =
      .ok ⟨plainText, [.v4 10 0 0 5]⟩ := by decide +kernel
  constructor
  · intro now inside
    have object : now.object = .ok (some (.plain 100)) ∧ now.membership = .ok .empty := by
      simp only [lasting, List.mem_cons, List.not_mem_nil, or_false] at inside
      rcases inside with rfl | rfl | rfl <;> exact ⟨rfl, rfl⟩
    refine ⟨⟨plainText, [.v4 10 0 0 5]⟩, ⟨.plain 100, .empty, object.1, object.2, drafted⟩, ?_⟩
    dsimp only
  · intro failure failed
    have results : (journal ⟨none, none⟩ ⟨"kube-system", "lb"⟩ .empty lasting).all (fun line =>
      match line with
      | .ended (.error _) => false
      | _ => true) = true := by decide +kernel
    exact Bool.false_ne_true (List.all_eq_true.1 results _ failed)

/-- A text is installed a second time when its object is declared anew, and only once by passes of which the first goes
stale. -/
theorem installs_not_repeated_anew :
    journal ⟨none, none⟩ ⟨"kube-system", "lb"⟩ .empty anew =
        inquiry ++ .call (.install plainText (.ok ())) :: (absence ++ .call (.install plainText (.ok ())) ::
          [.call (.reload (.ok ())), .ended (.ok .installed)]) ∧
      (∀ other ended, .call (.install other ended) ∉ absence) ∧
      ((∃ mishap : Mishap, .ok () = (.error mishap : Except Mishap Unit)) ∨
        (∃ mishap later, absence = .call (.reload (.error mishap)) :: later) ∨ .ended (.ok .deleted) ∈ absence) ∧
      Record.empty.artifacts.get? ⟨"kube-system", "lb"⟩ ≠ some plainText ∧
      Steadily ⟨none, none⟩ ⟨"kube-system", "lb"⟩ .empty plainText lasting ∧
      (∃ result, result ≠ .ok .stale ∧ .ended result ∈ journal ⟨none, none⟩ ⟨"kube-system", "lb"⟩ .empty lasting) ∧
      (journal ⟨none, none⟩ ⟨"kube-system", "lb"⟩ .empty lasting).filterMap Line.install? = [(plainText, .ok ())] ∧
      (journal ⟨none, none⟩ ⟨"kube-system", "lb"⟩ .empty lasting).filterMap Line.reload? = [.ok ()] := by
  have split : journal ⟨none, none⟩ ⟨"kube-system", "lb"⟩ .empty anew =
      inquiry ++ .call (.install plainText (.ok ())) :: (absence ++ .call (.install plainText (.ok ())) ::
        [.call (.reload (.ok ())), .ended (.ok .installed)]) := by decide +kernel
  have consecutive (other : String) (ended : Except Mishap Unit) : .call (.install other ended) ∉ absence := by
    simp [absence, inquiry]
  have apart : Record.empty.artifacts.get? ⟨"kube-system", "lb"⟩ ≠ some plainText := by simp [Record.empty]
  have met : ∃ result, result ≠ .ok .stale ∧
      .ended result ∈ journal ⟨none, none⟩ ⟨"kube-system", "lb"⟩ .empty lasting :=
    ⟨.ok .installed, by decide, by decide +kernel⟩
  exact ⟨split, consecutive, (installs_not_repeated _ _ _ _).1 _ _ _ _ _ _ split consecutive, apart,
    steadily_lasting, met, (installs_not_repeated _ _ _ _).2 plainText apart steadily_lasting met⟩

end VipKeeper.Sync
