import EditorialDesk.Record.Field
import EditorialDesk.Stage
import EditorialDesk.Value.Printer

/-!
# Notifications

The kinds of notification, their titles, and the request to notify a user about a
target. Each stage has a kind of its own for a decision that is pending in it.
-/
namespace EditorialDesk

inductive NotificationType where
  | submissionSubmitted
  | editorAssignmentRequired
  | approveSubmission
  | decisionPending (stage : Stage)
deriving DecidableEq, Repr

namespace NotificationType

def all : List NotificationType :=
  [submissionSubmitted, editorAssignmentRequired, approveSubmission] ++
    Stage.all.map decisionPending

theorem mem_all (t : NotificationType) : t ∈ all := by
  cases t with
  | decisionPending s => cases s <;> decide
  | _ => decide

/-- The word by which tables refer to the kind. -/
def word : NotificationType → String
  | submissionSubmitted => "submission_submitted"
  | editorAssignmentRequired => "editor_assignment_required"
  | approveSubmission => "approve_submission"
  | decisionPending .submission => "decision_pending_submission"
  | decisionPending .internalReview => "decision_pending_internal_review"
  | decisionPending .externalReview => "decision_pending_external_review"
  | decisionPending .editing => "decision_pending_editing"
  | decisionPending .production => "decision_pending_production"

def name : NotificationType → String
  | submissionSubmitted => "SUBMISSION_SUBMITTED"
  | editorAssignmentRequired => "EDITOR_ASSIGNMENT_REQUIRED"
  | approveSubmission => "APPROVE_SUBMISSION"
  | decisionPending s => "DECISION_PENDING_" ++ s.name

def ofWord? (w : String) : Option NotificationType := all.find? (·.word == w)

theorem ofWord?_word (t : NotificationType) : ofWord? t.word = some t := by
  cases t with
  | decisionPending s => cases s <;> decide
  | _ => decide

def title : NotificationType → String
  | submissionSubmitted => "A new submission has been assigned to you"
  | editorAssignmentRequired => "An editor needs to be assigned to this submission"
  | approveSubmission => "This submission is awaiting approval"
  | decisionPending .submission => "A decision is pending in the submission stage"
  | decisionPending .internalReview => "A decision is pending in internal review"
  | decisionPending .externalReview => "A decision is pending in review"
  | decisionPending .editing => "A decision is pending in copyediting"
  | decisionPending .production => "A decision is pending in production"

/-- The kinds that speak of a pending decision, by stage. -/
def pendingDecisions : List NotificationType := Stage.all.map decisionPending

end NotificationType

inductive NotificationLevel where
  | trivial
  | normal
  | task
deriving DecidableEq, Repr

namespace NotificationLevel

def all : List NotificationLevel := [trivial, normal, task]

def code : NotificationLevel → Int
  | trivial => 1
  | normal => 2
  | task => 3

def name : NotificationLevel → String
  | trivial => "TRIVIAL"
  | normal => "NORMAL"
  | task => "TASK"

def ofCode? (n : Int) : Option NotificationLevel := all.find? (·.code == n)

theorem ofCode?_code (l : NotificationLevel) : ofCode? l.code = some l := by cases l <;> rfl

end NotificationLevel

/-- What a notification can be about. -/
inductive TargetType where
  | submission
deriving DecidableEq, Repr

namespace TargetType

def all : List TargetType := [submission]

def word : TargetType → String
  | submission => "submission"

def name : TargetType → String
  | submission => "SUBMISSION"

def ofWord? (w : String) : Option TargetType := all.find? (·.word == w)

theorem ofWord?_word (t : TargetType) : ofWord? t.word = some t := by cases t; decide

end TargetType

/-- A notification that is to be stored. A caller may give any values. -/
structure Notice where
  userId : Value
  type : NotificationType
  contextId : Value
  targetType : TargetType
  targetId : Value
  level : NotificationLevel
deriving DecidableEq, Repr

namespace Notice

def fields (n : Notice) : Fields :=
  [("user_id", n.userId), ("type", .text n.type.word), ("context_id", n.contextId),
    ("target_type", .text n.targetType.word), ("target_id", n.targetId),
    ("level", .int n.level.code)]

/-- Where the reader of the notification is sent. -/
def actionUrl (n : Notice) : String :=
  let page := "/workflow/" ++ n.targetType.word ++ "/" ++ n.targetId.label
  if n.type == .editorAssignmentRequired then page ++ "?tab=participants" else page

end Notice

/-- The wish that a user be notified. -/
structure NotificationRequest where
  userId : String
  type : NotificationType
  contextId : Option String
  targetType : TargetType
  targetId : String
  level : NotificationLevel
deriving DecidableEq, Repr

namespace NotificationRequest

open Record in
def ofFields (fields : Fields) : Checked NotificationRequest :=
  mk <$> required "user_id" text fields <*>
    required "type" (worded NotificationType.ofWord?) fields <*>
    optional "context_id" text fields <*>
    withDefault "target_type" .submission (worded TargetType.ofWord?) fields <*>
    required "target_id" text fields <*>
    withDefault "level" .normal (numbered NotificationLevel.ofCode?) fields

/-- Requests are taken from plain objects only, which their complaint about anything else says. -/
def read : Record.Check NotificationRequest
  | .object fields => ofFields fields
  | _ => .complain .notPlainRecord

/-- The notification that is asked for. -/
def notice (r : NotificationRequest) : Notice :=
  ⟨.text r.userId, r.type, .ofText? r.contextId, r.targetType, .text r.targetId, r.level⟩

def toValue (r : NotificationRequest) : Value := .object r.notice.fields

end NotificationRequest
end EditorialDesk
