import Mathlib.Data.List.TakeWhile
import VipKeeper.Proofs.Router.Blocks
import VipKeeper.Proofs.Text.Encoding

/-! Streams of reports that one tracker reads one after the other.

What is sent is what the tracker observes over the reports of all streams, where a stream ends before its first line
that is no text. Nothing else of a stream matters: not the lines from there on, and not where it is cut into two streams,
as long as a line ends there. -/

namespace VipKeeper

namespace Text

/-- What is wrong with a line that is no text. -/
def problem? (line : List UInt8) : Option Malformed :=
  match ofLine line with
  | .ok _ => none
  | .error problem => some problem

theorem ofLine_cases (line : List UInt8) :
    (isText line = true ∧ ∃ text, ofLine line = .ok text ∧ ofBytes? (withoutEnd line) = some text) ∨
      (isText line = false ∧ ∃ problem, ofLine line = .error problem) := by
  have read := ofLine_eq line
  cases told : ofLine line with
  | ok text =>
    rw [told] at read
    split at read
    next valid => exact .inl ⟨valid, text, rfl, read.symm⟩
    next => cases read
  | error problem =>
    rw [told] at read
    split at read
    next valid =>
      obtain ⟨text, found⟩ := Option.isSome_iff_exists.1 (isText_withoutEnd valid)
      cases read.trans found
    next invalid => exact .inr ⟨Bool.eq_false_iff.2 invalid, problem, rfl⟩

theorem problem?_eq_none_iff {line : List UInt8} : problem? line = none ↔ isText line = true := by
  rcases ofLine_cases line with ⟨valid, text, told, -⟩ | ⟨invalid, problem, told⟩
  · simp [problem?, told, valid]
  · simp [problem?, told, invalid]

theorem legible_eq (lines : List (List UInt8)) :
    legible lines = (lines.takeWhile isText).filterMap (fun line => ofBytes? (withoutEnd line)) := by
  induction lines with
  | nil => rfl
  | cons line rest ih =>
    rcases ofLine_cases line with ⟨valid, text, told, found⟩ | ⟨invalid, problem, told⟩
    · rw [legible_cons_ok told, List.takeWhile_cons_of_pos valid, List.filterMap_cons, found, ih]
    · rw [legible_cons_error told, List.takeWhile_cons_of_neg (Bool.not_eq_true _ ▸ invalid), List.filterMap_nil]

end Text

namespace Role

theorem turns_eq (start : Role) (reports : List Role) : start.turns reports = (start.told reports).filterMap id := by
  rw [turns, told, List.filterMap_map]
  rfl

theorem getLastD_append (start : Role) (earlier later : List Role) :
    (earlier ++ later).getLastD start = later.getLastD (earlier.getLastD start) := by
  simp only [List.getLastD_eq_getLast?, List.getLast?_append]
  cases later.getLast? <;> rfl

theorem turns_append (start : Role) (earlier later : List Role) :
    start.turns (earlier ++ later) = start.turns earlier ++ (earlier.getLastD start).turns later := by
  rw [turns_eq, told_append, List.filterMap_append, ← turns_eq, ← turns_eq]

end Role

namespace Report

/-- The roles that a stream reports for a router instance before its first line that is no text. The end of a line is no
part of what is read. -/
def inStream (router : String) (stream : List UInt8) : List Role :=
  ((Text.lines stream).takeWhile Text.isText).filterMap
    (fun line => (Text.ofBytes? (Text.withoutEnd line)).bind (about? router))

theorem inStream_eq (router : String) (stream : List UInt8) :
    inStream router stream = (Text.legible (Text.lines stream)).filterMap (about? router) := by
  rw [inStream, Text.legible_eq, List.filterMap_filterMap]

/-- Streams are read as one if they are cut where a line ends and the first of them is a text. -/
theorem inStream_append {first second : List UInt8} (router : String) (cut : Text.LineEnds first second)
    (text : Text.isText first = true) :
    inStream router (first ++ second) = inStream router first ++ inStream router second := by
  have all := Text.isText_iff_lines.1 text
  have whole : (Text.lines first).takeWhile Text.isText = Text.lines first := List.takeWhile_eq_self_iff.2 all
  unfold inStream
  rw [Text.lines_append cut, List.takeWhile_append_of_pos all, List.filterMap_append, whole]

/-- What follows a line that is no text is not read. -/
theorem inStream_of_bad {before rest bad : List UInt8} {after : List (List UInt8)} (router : String)
    (cut : Text.LineEnds before rest) (begins : Text.lines rest = bad :: after) (malformed : Text.isText bad = false) :
    inStream router (before ++ rest) = inStream router before := by
  have stops : (bad :: after).takeWhile Text.isText = [] :=
    List.takeWhile_cons_of_neg (Bool.not_eq_true _ ▸ malformed)
  unfold inStream
  rw [Text.lines_append cut, begins, List.takeWhile_append, stops, List.append_nil]
  split
  next whole => rw [(List.takeWhile_prefix _).eq_of_length whole]
  next => rfl

end Report

namespace Tracker

theorem tracker_follow (tracker : Tracker) (lines : List (List UInt8)) :
    (tracker.follow true lines).1 =
      ⟨tracker.router, ((Text.legible lines).filterMap (Report.about? tracker.router)).getLastD tracker.role⟩ := by
  induction lines generalizing tracker with
  | nil => rfl
  | cons line rest ih =>
    unfold follow
    cases told : Text.ofLine line with
    | error problem => rw [Text.legible_cons_error told]; rfl
    | ok text =>
      rw [Text.legible_cons_ok told, List.filterMap_cons]
      dsimp only
      rw [observeLine_eq]
      cases Report.about? tracker.router text with
      | none => exact ih tracker
      | some role =>
        dsimp only
        rw [List.getLastD_cons]
        have later := ih ⟨tracker.router, role⟩
        cases Transition.between? tracker.role role with
        | none => exact later
        | some transition => exact later

/-- With somebody to receive the transitions, only a line that is no text ends the reading early. -/
theorem ending_follow (tracker : Tracker) (lines : List (List UInt8)) :
    (tracker.follow true lines).2.2 = (lines.findSome? Text.problem?).elim .exhausted .notText := by
  induction lines generalizing tracker with
  | nil => rfl
  | cons line rest ih =>
    unfold follow
    rw [List.findSome?_cons, Text.problem?]
    cases Text.ofLine line with
    | error problem => rfl
    | ok text =>
      dsimp only
      cases tracker.observeLine text with
      | mk next sent =>
        cases sent with
        | none => exact ih next
        | some transition => exact ih next

/-- Reads streams one after the other, each with what it sent and how it ended. -/
def followAll (tracker : Tracker) : List (List UInt8) → Tracker × List (List Transition × Except Fault Unit)
  | [] => (tracker, [])
  | stream :: rest =>
    let (next, sent, ending) := tracker.followStream true stream
    let (last, later) := next.followAll rest
    (last, (sent, ending.outcome) :: later)

/-- What the reading of streams leaves behind: the tracker, and all that was sent. -/
def effect (tracker : Tracker) (streams : List (List UInt8)) : Tracker × List Transition :=
  ((tracker.followAll streams).1, (tracker.followAll streams).2.flatMap Prod.fst)

theorem effect_cons (tracker : Tracker) (stream : List UInt8) (rest : List (List UInt8)) :
    tracker.effect (stream :: rest) =
      (((tracker.followStream true stream).1.effect rest).1,
        (tracker.followStream true stream).2.1 ++ ((tracker.followStream true stream).1.effect rest).2) :=
  rfl

theorem effect_eq (tracker : Tracker) (streams : List (List UInt8)) :
    tracker.effect streams =
      (⟨tracker.router, (streams.flatMap (Report.inStream tracker.router)).getLastD tracker.role⟩,
        tracker.role.turns (streams.flatMap (Report.inStream tracker.router))) := by
  induction streams generalizing tracker with
  | nil => rfl
  | cons stream rest ih =>
    have first := tracker_follow tracker (Text.lines stream)
    have sent := sent_followStream tracker stream
    rw [← Report.inStream_eq] at first sent
    have next : (tracker.followStream true stream).1 = _ := first
    rw [effect_cons, ih, next, sent, List.flatMap_cons, Role.turns_append, Role.getLastD_append]

/-- A stream is a fault of its reader if and only if one of its lines is no text. -/
theorem outcome_followStream (tracker : Tracker) (stream : List UInt8) :
    (tracker.followStream true stream).2.2.outcome =
      match (Text.lines stream).findSome? Text.problem? with
      | none => .ok ()
      | some problem => .error (.io problem.message) := by
  rw [followStream, ending_follow]
  cases (Text.lines stream).findSome? Text.problem? <;> rfl

theorem forall₂_followAll {Held : List UInt8 → Except Fault Unit → Prop}
    (each : ∀ (tracker : Tracker) stream, Held stream (tracker.followStream true stream).2.2.outcome) (tracker : Tracker)
    (streams : List (List UInt8)) :
    List.Forall₂ Held streams ((tracker.followAll streams).2.map Prod.snd) := by
  induction streams generalizing tracker with
  | nil => exact .nil
  | cons stream rest ih => exact .cons (each tracker stream) (ih (tracker.followStream true stream).1)

/-- All that is sent, and what the tracker knows in the end, is what it observes over the reports in the streams. Reading
a stream fails if and only if one of its lines is no text; from there on nothing in it has an effect. A text can be cut
in two wherever a line ends. -/
theorem streams_followed (tracker : Tracker) (streams : List (List UInt8)) :
    tracker.effect streams =
        ((tracker.observeAll (streams.flatMap (Report.inStream tracker.router))).1,
          (tracker.observeAll (streams.flatMap (Report.inStream tracker.router))).2.filterMap id) ∧
      List.Forall₂ (fun stream outcome =>
          ((∃ detail, outcome = .error (.io detail)) ↔ ∃ line ∈ Text.lines stream, Text.isText line = false) ∧
            (outcome = .ok () ↔ ∀ line ∈ Text.lines stream, Text.isText line = true))
        streams ((tracker.followAll streams).2.map Prod.snd) ∧
      (∀ earlier before rest later bad after, streams = earlier ++ (before ++ rest) :: later →
        Text.LineEnds before rest → Text.lines rest = bad :: after → Text.isText bad = false →
          tracker.effect streams = tracker.effect (earlier ++ before :: later)) ∧
      ∀ earlier first second later, streams = earlier ++ (first ++ second) :: later →
        Text.LineEnds first second → Text.isText (first ++ second) = true →
          tracker.effect streams = tracker.effect (earlier ++ first :: second :: later) := by
  refine ⟨?_, forall₂_followAll (fun tracker stream => ?_) tracker streams, ?_, ?_⟩
  · rw [observeAll_eq, effect_eq, Role.turns_eq]
  · rw [outcome_followStream]
    cases found : (Text.lines stream).findSome? Text.problem? with
    | none =>
      have all (line : List UInt8) (inside : line ∈ Text.lines stream) : Text.isText line = true :=
        Text.problem?_eq_none_iff.1 (List.findSome?_eq_none_iff.1 found line inside)
      simpa using all
    | some problem =>
      have some : ∃ line ∈ Text.lines stream, Text.isText line = false := by
        obtain ⟨line, inside, malformed⟩ := List.exists_of_findSome?_eq_some found
        refine ⟨line, inside, Bool.eq_false_iff.2 (fun valid => ?_)⟩
        rw [Text.problem?_eq_none_iff.2 valid] at malformed
        cases malformed
      simpa using some
  · rintro earlier before rest later bad after rfl cut begins malformed
    rw [effect_eq, effect_eq]
    simp only [List.flatMap_append, List.flatMap_cons, Report.inStream_of_bad _ cut begins malformed]
  · rintro earlier first second later rfl cut text
    have valid := (Text.isText_of_lineEnds cut text).1
    rw [effect_eq, effect_eq]
    simp only [List.flatMap_append, List.flatMap_cons, Report.inStream_append _ cut valid, List.append_assoc]

/-- A report of the instance `lb`, with its line end. -/
def reported (word : String) : List UInt8 :=
  Text.encode ("INSTANCE \"lb\" " ++ word ++ " 100\r\n").toList

/-- A report after a line that is no text is lost, and two reports may come in two streams. -/
theorem streams_followed_broken :
    Text.isText [0xFF, Text.newline] = false ∧ Text.isText (reported "BACKUP" ++ reported "MASTER") = true ∧
      (start "lb").effect [reported "MASTER" ++ ([0xFF, Text.newline] ++ reported "BACKUP")] =
        (start "lb").effect [reported "MASTER"] ∧
      (start "lb").effect [reported "BACKUP" ++ reported "MASTER"] =
        (start "lb").effect [reported "BACKUP", reported "MASTER"] := by
  have malformed : Text.isText [0xFF, Text.newline] = false := by
    rw [Bool.eq_false_iff, ne_eq, Text.isText_iff]
    rintro ⟨chars, same⟩
    have inside : 0xFF ∈ Text.encode chars := same ▸ List.mem_cons_self
    exact absurd (Text.lt_of_mem_encode inside) (by decide)
  have text : Text.isText (reported "BACKUP" ++ reported "MASTER") = true :=
    Text.isText_append (Text.isText_iff.2 ⟨_, rfl⟩) (Text.isText_iff.2 ⟨_, rfl⟩)
  have ended (word : String) (inside : word ∈ ["MASTER", "BACKUP"]) : Text.isEnded (reported word) = true := by
    revert word
    decide +kernel
  refine ⟨malformed, text, ?_, ?_⟩
  · exact (streams_followed (start "lb") _).2.2.1 [] (reported "MASTER") _ [] _ _ rfl (.inr (.inr (ended _ (by simp))))
      (Text.lines_append_of_ended rfl _) malformed
  · exact (streams_followed (start "lb") _).2.2.2 [] (reported "BACKUP") _ [] rfl (.inr (.inr (ended _ (by simp)))) text

end Tracker

end VipKeeper
