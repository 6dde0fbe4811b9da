import VipKeeper.Proofs.Lists
import VipKeeper.Router.Role

/-! The transitions in a stream of reports, told from the reports alone.

Of a stream only the lines before the first that is no text count, and of these only reports of the router instance
that is followed. Each report is held against the one before it, the first against the role that was known before. -/

namespace VipKeeper

/-- The transition from one report to the next. -/
def Transition.between? : Role → Role → Option Transition
  | .master, .master | .backup, .backup | _, .init => none
  | _, .master => some .becameMaster
  | _, .backup => some .becameBackup

/-- The transitions in a row of reports. -/
def Role.turns (start : Role) (reports : List Role) : List Transition :=
  (successions start reports).filterMap (fun pair => Transition.between? pair.1 pair.2)

/-- The texts of lines, up to a line that is none. -/
def Text.legible (lines : List (List UInt8)) : List String :=
  ((lines.map (fun line => (Text.ofLine line).toOption)).takeWhile Option.isSome).filterMap id

/-- The role that a text reports for a router instance, if it is a report about that one. -/
def Report.about? (router text : String) : Option Role :=
  ((Report.ofLine? text.toList).filter (fun report => decide (report.router = router))).map Report.role

namespace Text

theorem legible_cons_error {line : List UInt8} {problem : Malformed} (malformed : ofLine line = .error problem)
    (rest : List (List UInt8)) : legible (line :: rest) = [] := by
  simp [legible, malformed, Except.toOption]

theorem legible_cons_ok {line : List UInt8} {text : String} (told : ofLine line = .ok text)
    (rest : List (List UInt8)) : legible (line :: rest) = text :: legible rest := by
  simp [legible, told, Except.toOption]

end Text

namespace Role

theorem turns_cons (start role : Role) (rest : List Role) :
    start.turns (role :: rest) = (Transition.between? start role).toList ++ role.turns rest := by
  rw [turns, successions_cons, List.filterMap_cons]
  dsimp only
  cases Transition.between? start role <;> rfl

/-- Nothing is told of a master who is reported again, and a stop is told only by what comes after it. -/
example : init.turns [.master, .master, .init, .master, .backup, .init, .backup] =
    [.becameMaster, .becameMaster, .becameBackup, .becameBackup] := rfl

end Role

namespace Tracker

theorem observe_eq (tracker : Tracker) (reported : Role) :
    tracker.observe reported = (⟨tracker.router, reported⟩, Transition.between? tracker.role reported) := by
  obtain ⟨router, role⟩ := tracker
  cases role <;> cases reported <;> rfl

/-- Only a report about the instance is held against the last one. -/
theorem observeLine_eq (tracker : Tracker) (text : String) :
    tracker.observeLine text =
      match Report.about? tracker.router text with
      | none => (tracker, none)
      | some role => (⟨tracker.router, role⟩, Transition.between? tracker.role role) := by
  unfold observeLine Report.about?
  cases Report.ofLine? text.toList with
  | none => rfl
  | some report => by_cases same : report.router = tracker.router <;> simp [Option.filter, same, observe_eq]

theorem sent_follow (tracker : Tracker) (lines : List (List UInt8)) :
    (tracker.follow true lines).2.1 =
      tracker.role.turns ((Text.legible lines).filterMap (Report.about? tracker.router)) := by
  induction lines generalizing tracker with
  | nil => rfl
  | cons line rest ih =>
    unfold follow
    cases told : Text.ofLine line with
    | error problem => rw [Text.legible_cons_error told]; rfl
    | ok text =>
      rw [Text.legible_cons_ok told, List.filterMap_cons]
      dsimp only
      rw [observeLine_eq]
      cases Report.about? tracker.router text with
      | none => exact ih tracker
      | some role =>
        -- A report without a transition is still what the next one is held against.
        dsimp only
        rw [Role.turns_cons]
        have later := ih ⟨tracker.router, role⟩
        cases Transition.between? tracker.role role with
        | none => exact later
        | some transition => exact congrArg (transition :: ·) later

theorem sent_followStream (tracker : Tracker) (stream : List UInt8) :
    (tracker.followStream true stream).2.1 =
      tracker.role.turns ((Text.legible (Text.lines stream)).filterMap (Report.about? tracker.router)) :=
  sent_follow tracker (Text.lines stream)

end Tracker

end VipKeeper
