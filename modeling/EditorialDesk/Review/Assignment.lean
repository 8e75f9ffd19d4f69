import EditorialDesk.Record.Field
import EditorialDesk.Stage
import EditorialDesk.Text.Casing

/-!
# Review assignments

One reviewer's invitation to review one submission at one stage, with the dates at
which it was due and at which things happened. No status is stored.
-/
namespace EditorialDesk.Review

/-!
## Reviewers' recommendations

The recommendations that have a wording of their own, and the label shown for
whatever a reviewer recommended.
-/

inductive Recommendation where
  | accept
  | pendingRevisions
  | resubmitHere
  | resubmitElsewhere
  | decline
  | seeComments
deriving DecidableEq, Repr

namespace Recommendation

def all : List Recommendation :=
  [accept, pendingRevisions, resubmitHere, resubmitElsewhere, decline, seeComments]

def word : Recommendation → String
  | accept => "accept"
  | pendingRevisions => "pending_revisions"
  | resubmitHere => "resubmit_here"
  | resubmitElsewhere => "resubmit_elsewhere"
  | decline => "decline"
  | seeComments => "see_comments"

def name : Recommendation → String
  | accept => "ACCEPT"
  | pendingRevisions => "PENDING_REVISIONS"
  | resubmitHere => "RESUBMIT_HERE"
  | resubmitElsewhere => "RESUBMIT_ELSEWHERE"
  | decline => "DECLINE"
  | seeComments => "SEE_COMMENTS"

def label : Recommendation → String
  | accept => "Accept Submission"
  | pendingRevisions => "Revisions Required"
  | resubmitHere => "Resubmit for Review"
  | resubmitElsewhere => "Resubmit Elsewhere"
  | decline => "Decline Submission"
  | seeComments => "See Comments"

def ofWord? (w : String) : Option Recommendation := all.find? (·.word == w)

/-- What is shown for a recommendation as given: the label of a known one, whatever its case and the
white space around it, else the trimmed text itself. Nothing is shown for a blank one. -/
def shown? (given : Option String) : Option String :=
  let raw := Text.trim (given.getD "")
  if raw == "" then none
  else match ofWord? (Text.lower raw) with
    | some r => some r.label
    | none => some raw

end Recommendation

/-! ## Review assignments -/

structure Assignment where
  id : String
  submissionId : String
  stage : Stage
  reviewerId : String
  recommendation : Option String
  dateResponseDue : Option Calendar.Dated
  dateDue : Option Calendar.Dated
  dateConfirmed : Option Calendar.Dated
  dateReceived : Option Calendar.Dated
  dateCompleted : Option Calendar.Dated
  dateAcknowledged : Option Calendar.Dated
  cancelled : Bool
  declined : Bool
deriving DecidableEq, Repr

namespace Assignment

open Record in
def ofFields (fields : Fields) : Checked Assignment :=
  let date (name : String) : Checked (Option Calendar.Dated) :=
    (optional name moment fields).map (Option.map .moment)
  mk <$> required "id" text fields <*> required "submission_id" text fields <*>
    withDefault "stage_id" .externalReview (numbered Stage.ofCode?) fields <*>
    required "reviewer_id" text fields <*> optional "recommendation" text fields <*>
    date "date_response_due" <*> date "date_due" <*> date "date_confirmed" <*>
    date "date_received" <*> date "date_completed" <*> date "date_acknowledged" <*>
    withDefault "cancelled" false truth fields <*> withDefault "declined" false truth fields

def read : Record.Check Assignment := Record.record ofFields

def recommendationLabel (a : Assignment) : Option String := Recommendation.shown? a.recommendation

/-- Puts a bare calendar date into a field. A flag in whose place a date stands is set, a date in
place of a recommendation is its own text, and no other field is looked at in a review. -/
def withDate (a : Assignment) (name : String) (d : Calendar.Date) : Assignment :=
  match name with
  | "recommendation" => { a with recommendation := some d.text }
  | "cancelled" => { a with cancelled := true }
  | "declined" => { a with declined := true }
  | "date_response_due" => { a with dateResponseDue := some (.day d) }
  | "date_due" => { a with dateDue := some (.day d) }
  | "date_confirmed" => { a with dateConfirmed := some (.day d) }
  | "date_received" => { a with dateReceived := some (.day d) }
  | "date_completed" => { a with dateCompleted := some (.day d) }
  | "date_acknowledged" => { a with dateAcknowledged := some (.day d) }
  | _ => a

def dateValue : Option Calendar.Dated → Value
  | some (.moment m) => .ofMoment m
  | some (.day d) => .text d.text
  | none => .null

def toValue (a : Assignment) : Value :=
  .object [("id", .text a.id), ("submission_id", .text a.submissionId),
    ("stage_id", .int a.stage.code), ("reviewer_id", .text a.reviewerId),
    ("recommendation", .ofText? a.recommendation),
    ("date_response_due", dateValue a.dateResponseDue), ("date_due", dateValue a.dateDue),
    ("date_confirmed", dateValue a.dateConfirmed), ("date_received", dateValue a.dateReceived),
    ("date_completed", dateValue a.dateCompleted),
    ("date_acknowledged", dateValue a.dateAcknowledged), ("cancelled", .bool a.cancelled),
    ("declined", .bool a.declined)]

end Assignment
end EditorialDesk.Review
