import EditorialDesk.Calendar.Zone
import EditorialDesk.Database.Fault
import EditorialDesk.Review.Assignment

/-!
# Presenting a review

What is shown of a review assignment: its status and label, a line of details, the
class that sets it off, and what can be done about it.
-/
namespace EditorialDesk.Review

/-!
## Status of a review

The status follows from the flags and dates of an assignment; the first rule that
applies decides. Only an assignment that still waits depends on a due date and on
the day: it is overdue once its due date, in the zone, lies before today.
-/

inductive Status where
  | awaitingResponse
  | accepted
  | declined
  | cancelled
  | responseOverdue
  | reviewOverdue
  | received
  | complete
  | thanked
deriving DecidableEq, Repr

namespace Status

def all : List Status :=
  [awaitingResponse, accepted, declined, cancelled, responseOverdue, reviewOverdue, received,
    complete, thanked]

def word : Status → String
  | awaitingResponse => "awaiting_response"
  | accepted => "accepted"
  | declined => "declined"
  | cancelled => "cancelled"
  | responseOverdue => "response_overdue"
  | reviewOverdue => "review_overdue"
  | received => "received"
  | complete => "complete"
  | thanked => "thanked"

def name : Status → String
  | awaitingResponse => "AWAITING_RESPONSE"
  | accepted => "ACCEPTED"
  | declined => "DECLINED"
  | cancelled => "CANCELLED"
  | responseOverdue => "RESPONSE_OVERDUE"
  | reviewOverdue => "REVIEW_OVERDUE"
  | received => "RECEIVED"
  | complete => "COMPLETE"
  | thanked => "THANKED"

def ofWord? (w : String) : Option Status := all.find? (·.word == w)

def label : Status → String
  | awaitingResponse => "Request Sent"
  | accepted => "Request Accepted"
  | declined => "Declined"
  | cancelled => "Cancelled"
  | responseOverdue | reviewOverdue => "Overdue"
  | received => "Review Submitted"
  | complete => "Complete"
  | thanked => "Reviewer Thanked"

/-- The class by which a status is set off, if it is. -/
def stateClass? : Status → Option String
  | responseOverdue | reviewOverdue => some "overdue"
  | declined => some "declined"
  | cancelled => some "cancelled"
  | _ => none

/-- Whether there is a review to read. -/
def showsNotes (s : Status) : Bool := s == complete || s == thanked || s == received

end Status

/-- Where today's date comes from: off a calendar, or off the clock in the zone. -/
inductive Today where
  | calendar (day : Reading Calendar.Date)
  | clock (now : Calendar.Instant)
deriving DecidableEq, Repr

/-- Today's date in a zone. -/
def Today.date (today : Today) (zone : Calendar.Zone) : Except Fault Calendar.Date :=
  match today with
  | .calendar day => day.look
  | .clock now => Fault.inCalendar (zone.dateAt? now)

/-- Whether a due date lies before a day. No due date never does. -/
def isPast (zone : Calendar.Zone) (due : Option Calendar.Dated) (today : Calendar.Date) :
    Except Fault Bool :=
  match due with
  | none => .ok false
  | some due => (Fault.inCalendar (zone.dateOf? due)).map (· < today)

namespace Assignment

/-- The status by the rules in their order. -/
def status (a : Assignment) (zone : Calendar.Zone) (today : Today) : Except Fault Status :=
  if a.cancelled then .ok .cancelled
  else if a.declined then .ok .declined
  else if a.dateAcknowledged.isSome then .ok .thanked
  else if a.dateCompleted.isSome then .ok .complete
  else if a.dateReceived.isSome then .ok .received
  else do
    let current ← today.date zone
    if a.dateConfirmed.isNone then
      let past ← isPast zone a.dateResponseDue current
      return if past then .responseOverdue else .awaitingResponse
    else
      let past ← isPast zone a.dateDue current
      return if past then .reviewOverdue else .accepted

end Assignment

/-! ## Presenting a review -/

inductive Action where
  | readReviewNotes
deriving DecidableEq, Repr

namespace Action

def all : List Action := [readReviewNotes]

def word : Action → String
  | readReviewNotes => "read_review_notes"

def name : Action → String
  | readReviewNotes => "READ_REVIEW_NOTES"

end Action

/-- What can be done about a review of this status. -/
def Status.actions (s : Status) : List Action := if s.showsNotes then [.readReviewNotes] else []

/-- The date of a due date as it is written by default, in the zone of whoever wrote it. -/
def dueText (due : Option Calendar.Date) : Option String := due.map (·.text)

/-- How reviews are presented: in which zone, on which day, and with due dates written how. -/
structure Presenter where
  zone : Calendar.Zone
  today : Today
  write : Option Calendar.Date → Option String

structure View where
  status : Status
  label : String
  details : Option String
  stateClass : Option String
  actions : List Action
deriving DecidableEq, Repr

namespace Presenter

/-- A due date as written behind a heading; an empty text is not shown. -/
def dueLine (p : Presenter) (heading : String) (due : Option Calendar.Dated) :
    Except Fault (Option String) := do
  let date ← match due with
    | none => pure none
    | some d => (Fault.inCalendar (p.zone.dateOf? d)).map some
  match p.write date with
  | some line => return if line == "" then none else some (heading ++ line)
  | none => return none

/-- The line of details. -/
def details (p : Presenter) (a : Assignment) : Status → Except Fault (Option String)
  | .awaitingResponse | .responseOverdue => p.dueLine "Response due: " a.dateResponseDue
  | .accepted | .reviewOverdue => p.dueLine "Review due: " a.dateDue
  | .complete | .thanked | .received =>
    .ok (a.recommendationLabel.map ("Recommendation: " ++ ·))
  | .declined | .cancelled => .ok none

/-- The view of an assignment. -/
def present (p : Presenter) (a : Assignment) : Except Fault View := do
  let status ← a.status p.zone p.today
  let details ← p.details a status
  return ⟨status, status.label, details, status.stateClass?, status.actions⟩

end Presenter

def View.toValue (v : View) : Value :=
  .object [("status", .text v.status.word), ("state_label", .text v.label),
    ("details", .ofText? v.details), ("state_class", .ofText? v.stateClass),
    ("actions", .ofTexts (v.actions.map (·.word)))]

end EditorialDesk.Review
