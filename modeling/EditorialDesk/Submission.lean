import EditorialDesk.Record.Field
import EditorialDesk.Value.Nesting

/-!
# Submissions

A submission with its current publication. Its progress counts the authoring steps
from one; zero means that it has been finalized.
-/
namespace EditorialDesk

structure Publication where
  id : String
  categoryIds : List String
deriving DecidableEq, Repr

structure Submission where
  id : String
  contextId : String
  sectionId : Option String
  publication : Option Publication
  progress : Int
  dateSubmitted : Option Calendar.Moment
  dateLastActivity : Option Calendar.Moment
  lastModified : Option Calendar.Moment
deriving DecidableEq, Repr

namespace Publication

open Record in
def ofFields (fields : Fields) : Checked Publication :=
  mk <$> required "id" text fields <*> withDefault "category_ids" [] (list text) fields

def read : Record.Check Publication := Record.record ofFields

def toValue (p : Publication) : Value :=
  .object [("id", .text p.id), ("category_ids", .ofTexts p.categoryIds)]

end Publication

namespace Submission

/-- The last authoring step. -/
def finalStep : Int := 4

/-- The categories of the current publication. -/
def categoryIds (s : Submission) : List String :=
  match s.publication with
  | some p => p.categoryIds
  | none => []

def isFinalized (s : Submission) : Bool := s.progress == 0

/-- Whether the submission is still within the authoring steps. -/
def isFinalizable (s : Submission) : Bool := !s.isFinalized && s.progress ≤ finalStep

open Record in
def ofFields (fields : Fields) : Checked Submission :=
  mk <$> required "id" text fields <*> required "context_id" text fields <*>
    optional "section_id" text fields <*>
    optional "current_publication" Publication.read fields <*>
    withDefault "submission_progress" 1 whole fields <*> optional "date_submitted" moment fields <*>
    optional "date_last_activity" moment fields <*> optional "last_modified" moment fields

def read : Record.Check Submission := Record.record ofFields

def toValue (s : Submission) : Value :=
  .object [("id", .text s.id), ("context_id", .text s.contextId),
    ("section_id", .ofText? s.sectionId),
    ("current_publication", match s.publication with
      | some p => p.toValue
      | none => .null),
    ("submission_progress", .int s.progress), ("date_submitted", .ofMoment? s.dateSubmitted),
    ("date_last_activity", .ofMoment? s.dateLastActivity),
    ("last_modified", .ofMoment? s.lastModified)]

end Submission

/-!
## Submission events

What happens to a submission and is worth a line in its log, and that line.
-/

inductive EventType where
  | submissionSubmitted
  | participantAssigned
deriving DecidableEq, Repr

namespace EventType

def all : List EventType := [submissionSubmitted, participantAssigned]

def word : EventType → String
  | submissionSubmitted => "submission_submitted"
  | participantAssigned => "participant_assigned"

def name : EventType → String
  | submissionSubmitted => "SUBMISSION_SUBMITTED"
  | participantAssigned => "PARTICIPANT_ASSIGNED"

def ofWord? (w : String) : Option EventType := all.find? (·.word == w)

theorem ofWord?_word (t : EventType) : ofWord? t.word = some t := by cases t <;> decide

end EventType

/-- An event that is to be logged. A caller may give any values. -/
structure Event where
  submissionId : Value
  userId : Value
  type : EventType
  messageKey : Value
  params : Value
deriving DecidableEq, Repr

/-- The fields of an event. Parameters that count as absent are an empty object. -/
def Event.fields (e : Event) : Fields :=
  [("submission_id", e.submissionId), ("user_id", e.userId), ("event_type", .text e.type.word),
    ("message_key", e.messageKey),
    ("params", if e.params.isPresent then e.params else .object [])]

/-- A line of the log. -/
structure LogEntry where
  id : Option String
  submissionId : String
  userId : Option String
  type : EventType
  messageKey : String
  params : Fields
  dateLogged : Calendar.Moment
deriving DecidableEq, Repr

namespace LogEntry

open Record in
/-- Checks the fields of an entry, but for its date, which is last among them. -/
def ofFieldsAt (date : Checked Calendar.Moment) (fields : Fields) : Checked LogEntry :=
  mk <$> optional "id" text fields <*> required "submission_id" text fields <*>
    optional "user_id" text fields <*> required "event_type" (worded EventType.ofWord?) fields <*>
    required "message_key" text fields <*> withDefault "params" [] object fields <*> date

open Record in
def ofFields (fields : Fields) : Checked LogEntry :=
  ofFieldsAt (required "date_logged" moment fields) fields

def read : Record.Check LogEntry := Record.record ofFields

/-- The entry of an event, if its values are those of an entry. -/
def ofEvent (id : Option String) (now : Calendar.Moment) (e : Event) : Record.Checked LogEntry :=
  (ofFieldsAt (.accepted now) e.fields).map fun entry => { entry with id }

/-- The entry as a value. Of its parameters, numbers that are not finite are shown as null. -/
def toValue (e : LogEntry) : Value :=
  .object [("id", .ofText? e.id), ("submission_id", .text e.submissionId),
    ("user_id", .ofText? e.userId), ("event_type", .text e.type.word),
    ("message_key", .text e.messageKey), ("params", (Value.object e.params).finite),
    ("date_logged", .ofMoment e.dateLogged)]

/-- How deep the parameters of an entry may nest for it to be shown. -/
def maxDepth : Nat := 255

/-- The entry as a value, if its parameters do not nest too deep. -/
def shown? (e : LogEntry) : Option Value :=
  if (Value.object e.params).depth ≤ maxDepth then some e.toValue else none

end LogEntry
end EditorialDesk
