import EditorialDesk.Database.Fault
import EditorialDesk.Database.Perform
import EditorialDesk.Intake.Request
import EditorialDesk.Store.Directory

/-!
# The register in the database

Stage assignments, notifications, log entries and the dates of submissions, as they are
read from tables and written to them. What is written bears a moment in UTC, the one
that the clock shows.
-/
namespace EditorialDesk.Store

/-- The label of a column that has to be there. -/
def neededLabel (row : Row) (column : String) : Except Fault String :=
  match row.get? column with
  | some v => .ok v.label
  | none => .error (.missingField column)

/-- The label of a value, unless it is null. -/
def labelUnlessNull : Value → Option String
  | .null => none
  | v => some v.label

/-- The date of an assignment's row, by the rules for a field of a record. -/
def assignedDate (row : Row) : Record.Checked (Option Calendar.Moment) :=
  (Record.orNull Record.moment (row.get "date_assigned")).under (.field "date_assigned")

def assignmentOf (row : Row) : Except Fault StageAssignment := do
  let submissionId ← neededLabel row "submission_id"
  let groupId ← neededLabel row "user_group_id"
  let userId ← neededLabel row "user_id"
  let date ← Fault.ofChecked (assignedDate row)
  return ⟨labelUnlessNull (row.get "id"), ⟨submissionId, groupId, userId⟩,
    (row.get "recommend_only").isPresent, date⟩

/-- The first part of an answer. What counts as absent has none; an object has parts with names but
no first one, and a number has no parts at all. -/
def firstPart : Value → Except Fault (Option Value)
  | .list items => .ok items.head?
  | .text s => .ok (s.toList.head?.map fun c => .text (String.singleton c))
  | v =>
    if !v.isPresent then .ok none
    else
      match v with
      | .object _ => .error (.missingField "0")
      | _ => .error .badType

/-- The first part of an answer as a row. -/
def firstRow (answer : Value) : Except Fault (Option Row) := do
  match ← firstPart answer with
  | none => return none
  | some (.object row) => return some row
  | some _ => .error .noFields

/-- Those assignments of a submission that the conditions admit, the earliest first. -/
def selectAssignments (filters : List Filter) : Session (List StageAssignment) := do
  let rows ← Session.lookup Table.stageAssignments filters ["date_assigned", "id"]
  Program.ofExcept (rows.mapM assignmentOf)

/-- The conditions of a query that concern the assignment itself. -/
def assignmentFilters (q : AssignmentQuery) : List Filter :=
  .equals "submission_id" q.submissionId.label ::
    ((q.groupId.map fun id => Filter.equals "user_group_id" id.label).toList ++
      (q.userId.map fun id => Filter.equals "user_id" id.label).toList)

/-- Where a stage is asked for, the groups open at it are looked up first; if there are none there
is nothing to look for. -/
def assignments (q : AssignmentQuery) : Session (List StageAssignment) :=
  match q.stage with
  | none => selectAssignments (assignmentFilters q)
  | some stage => do
    let rows ← Session.lookup Table.userGroupStages
      [.equals "stage_id" (toString stage.code)] []
    let ids := (rows.filter fun r => (r.get "user_group_id").isPresent).map
      (·.label "user_group_id")
    if ids.isEmpty then return []
    else selectAssignments (assignmentFilters q ++ [.among "user_group_id" ids])

/-- The row of an enrolment: its values as given, but for the flag, which is set if it counts as
present. -/
def assignmentRow (now : Calendar.Moment) (e : Enrollment) : Row :=
  { e with recommendOnly := .bool e.recommendOnly.isPresent }.fields ++
    [("date_assigned", .text now.columnText)]

/-- Takes a seat. A violated constraint says that it was taken; every other fault is passed on. -/
def enroll (now : Calendar.Moment) (e : Enrollment) : Session (Option StageAssignment) :=
  let row := assignmentRow now e
  Session.attempt (.insert Table.stageAssignments row)
    (fun answer => Program.ofExcept do
      return some (← assignmentOf ((← firstRow answer).getD row)))
    fun fault =>
      match fault with
      | .rejected e => if e.isUniqueViolation then pure none else .fault (.ofLookup fault)
      | _ => .fault (.ofLookup fault)

def notificationRow (now : Calendar.Moment) (n : Notice) : Row :=
  [("user_id", n.userId), ("context_id", n.contextId), ("type", .text n.type.word),
    ("level", .int n.level.code), ("assoc_type", .text n.targetType.word),
    ("assoc_id", n.targetId), ("title", .text n.type.title), ("action_url", .text n.actionUrl),
    ("is_read", .bool false), ("created_at", .text now.columnText)]

/-- Stores a notification. One for a user who does not exist is dropped. -/
def notify (now : Calendar.Moment) (n : Notice) : Session (Option Value) :=
  Session.attempt (.insert Table.notifications (notificationRow now n))
    (fun answer => Program.ofExcept (firstPart answer))
    fun fault =>
      match fault with
      | .rejected e => if e.isOrphanUser then pure none else .fault (.ofCall fault)
      | _ => .fault (.ofCall fault)

/-- Deletes the notifications of some kinds about a target and counts them. -/
def withdraw (types : List NotificationType) (target : TargetType) (targetId : Value) :
    Session Nat :=
  if types.isEmpty then pure 0
  else do
    let rows ← Session.execute (.delete Table.notifications
      [.among "type" (types.map (·.word)), .equals "assoc_type" target.word,
        .equals "assoc_id" targetId.label])
    return rows.length

def eventRow (now : Calendar.Moment) (e : Event) : Row :=
  e.fields ++ [("date_logged", .text now.columnText)]

/-- Adds an entry to the log and dates the submission's last activity. Only then are the values of
the entry checked. -/
def log (now : Calendar.Moment) (e : Event) : Session LogEntry := do
  let answer ← Session.execute (.insert Table.eventLog (eventRow now e))
  let _ ← Session.execute (.update Table.submissions
    [("date_last_activity", .text now.columnText)] [.equals "id" e.submissionId.label])
  Program.ofExcept do
    let id := (← firstRow answer).bind fun row => labelUnlessNull (row.get "id")
    Fault.ofChecked (LogEntry.ofEvent id now e)

/-- A moment as a column holds it. -/
def momentColumn : Option Calendar.Moment → Value
  | some m => .text m.columnText
  | none => .null

/-- The columns of a submission that finalizing it changes. -/
def submissionPatch (s : Submission) : Row :=
  [("submission_progress", .int s.progress), ("date_submitted", momentColumn s.dateSubmitted),
    ("date_last_activity", momentColumn s.dateLastActivity),
    ("last_modified", momentColumn s.lastModified)]

def save (s : Submission) : Session Unit := do
  let _ ← Session.execute (.update Table.submissions (submissionPatch s) [.equals "id" s.id])

/-!
## The collaborators in the database

Every request of the intake as a session of queries, and whole plans as sessions.
-/

/-- Goes on with what the clock shows. -/
def atClock {α : Type} (clock : Reading Calendar.Moment) (go : Calendar.Moment → Session α) :
    Session α :=
  (Program.ofExcept clock.look).bind go

/-- The queries by which a request is answered. What is to be dated needs the clock before anything
is asked of the database. -/
def session (clock : Reading Calendar.Moment) : (q : Request) → Session q.Answer
  | .groupsForStage contextId stage => groupsForStage contextId stage
  | .groupsForUser userId contextId => groupsForUser userId contextId
  | .group id => group? id
  | .members groupId contextId => members groupId contextId
  | .subEditors grouping contextId => subEditors grouping contextId
  | .managers contextId => managers contextId
  | .assignments query => assignments query
  | .enroll enrollment => atClock clock fun now => enroll now enrollment
  | .notify notice => atClock clock fun now => notify now notice
  | .withdraw types target targetId => withdraw types target targetId
  | .log event => atClock clock fun now => log now event
  | .save submission => save submission

/-- A plan as one session. -/
def sessionOf {α : Type} (clock : Reading Calendar.Moment) (plan : Plan α) : Session α :=
  plan.via (session clock)

end EditorialDesk.Store
