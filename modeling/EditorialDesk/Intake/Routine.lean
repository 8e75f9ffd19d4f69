import EditorialDesk.Database.Fault
import EditorialDesk.Intake.Request

/-!
# The intake routine

Who takes part in a submission that comes in, and who is told. A group of managers or
assistants is enrolled if it has a single member, the submitter through the first of
their author groups, the sub-editors through the section and the categories. Whoever
is put on the list is notified; if nobody is, all managers are asked to assign an
editor. Notifications of pending decisions and approvals are withdrawn in any case.
-/
namespace EditorialDesk.Intake

/-- What a run has done so far. -/
structure Progress where
  /-- Enrolments that were tried, whether or not their seats were free. -/
  seen : List Enrollment
  created : List StageAssignment
  /-- Whom to notify, without repeats. -/
  notify : List Value
deriving DecidableEq, Repr

namespace Progress

def start : Progress := ⟨[], [], []⟩

/-- Puts a user on the list of those to notify, once. -/
def note (p : Progress) (userId : Value) : Progress :=
  if p.notify.any (·.alike userId) then p else { p with notify := p.notify ++ [userId] }

/-- No two on the list name one user, whoever is noted. -/
theorem pairwise_notify_note {p : Progress}
    (h : p.notify.Pairwise fun a b => a.alike b = false) (userId : Value) :
    (p.note userId).notify.Pairwise fun a b => a.alike b = false := by
  unfold note
  split
  · exact h
  · next hu =>
    refine List.pairwise_append.2 ⟨h, List.pairwise_singleton _ _, fun a ha b hb => ?_⟩
    obtain rfl := List.mem_singleton.1 hb
    cases hab : a.alike b with
    | false => rfl
    | true => exact absurd (List.any_eq_true.2 ⟨a, ha, hab⟩) hu

end Progress

/-- What a run has done. -/
structure Outcome where
  created : List StageAssignment
  notifyUserIds : List String
  notifications : List NotificationRequest
  escalated : Bool
deriving DecidableEq, Repr

/-- The outcome of not running at all. -/
def Outcome.none : Outcome := ⟨[], [], [], false⟩

/-- The event of an enrolment. -/
def participantEvent (submissionId : String) (g : UserGroup) (userId : Value) : Event where
  submissionId := .text submissionId
  userId := .null
  type := .participantAssigned
  messageKey := .text "submission.event.participantAdded"
  params := .object [("user_group_id", .text g.id), ("user_group_name", .text g.name),
    ("user_id", userId)]

/-- Enrols a user through a group, unless this run has tried the seat before. An enrolment is
logged; a seat that is taken is passed over. -/
def enroll (logs : Bool) (s : Submission) (p : Progress) (g : UserGroup) (userId : Value)
    (recommendOnly : Bool) : Plan Progress := do
  let userId ← Program.ofExcept (Fault.named userId)
  let enrollment : Enrollment := ⟨.text s.id, .text g.id, userId, .bool recommendOnly⟩
  if p.seen.any (·.sharesSeat enrollment) then return p
  else
    let p := { p with seen := p.seen ++ [enrollment] }
    match ← Plan.enroll? enrollment with
    | .none => return p
    | some a =>
      let p := { p with created := p.created ++ [a] }
      if logs then
        let _ ← Plan.log (participantEvent s.id g userId)
        return p
      else return p

/-- Enrols and notes the member of a group that is open to it at intake, if it has just one. -/
def enrollSingleton (logs : Bool) (s : Submission) (p : Progress) (g : UserGroup) :
    Plan Progress := do
  if g.role.isIntakeSingleton then
    match ← Plan.members (.text g.id) (.text s.contextId) with
    | [userId] => return (← enroll logs s p g userId g.recommendOnly).note userId
    | _ => return p
  else return p

def enrollSingletons (logs : Bool) (s : Submission) (p : Progress) : Plan Progress := do
  let groups ← Plan.groupsForStage (.text s.contextId) .intake
  groups.foldlM (enrollSingleton logs s) p

/-- Enrols through the first author group among the assignments, and looks no further. -/
def carryFirstAuthor (logs : Bool) (s : Submission) (p : Progress) :
    List StageAssignment → Plan Progress
  | [] => pure p
  | a :: rest => do
    match ← Plan.group? (.text a.seat.groupId) with
    | some g =>
      if g.role == .author then enroll logs s p g (.text a.seat.userId) false
      else carryFirstAuthor logs s p rest
    | .none => carryFirstAuthor logs s p rest

/-- Carries the submitter over from their assignments to the submission. -/
def carrySubmitter (logs : Bool) (s : Submission) (submitter : Value) (p : Progress) :
    Plan Progress := do
  if submitter.isPresent then
    let existing ← Plan.assignments ⟨.text s.id, .none, .none, some submitter⟩
    carryFirstAuthor logs s p existing
  else return p

/-- The section of a submission, if it has one, and then its categories. -/
def groupings (s : Submission) : List Grouping :=
  (match s.sectionId with
    | some id => if id == "" then [] else [⟨.journalSection, .text id⟩]
    | .none => []) ++ s.categoryIds.map (⟨.category, .text ·⟩)

/-- A user who may be enrolled, and the group through which. -/
structure Candidate where
  group : UserGroup
  userId : Value
deriving DecidableEq, Repr

/-- Adds groups of a user to the candidates, each group and user once. -/
def addCandidates (found : List Candidate) (userId : Value) (groups : List UserGroup) :
    List Candidate :=
  groups.foldl (fun found g =>
    if found.any (fun c => c.group.id == g.id && c.userId.alike userId) then found
    else found ++ [⟨g, userId⟩]) found

/-- The candidates among the sub-editors of a grouping. -/
def groupingCandidates (contextId : String) (found : List Candidate) (grouping : Grouping) :
    Plan (List Candidate) := do
  let users ← Plan.subEditors grouping (.text contextId)
  users.foldlM (fun found userId => do
    let groups ← Plan.groupsForUser userId (.text contextId)
    match groups.filter (·.role == .subEditor) with
    | [] => return found
    | groups =>
      let userId ← Program.ofExcept (Fault.named userId)
      return addCandidates found userId groups) found

/-- The sub-editors of the section and the categories, in this order and without repeats. -/
def candidates (s : Submission) : Plan (List Candidate) :=
  (groupings s).foldlM (groupingCandidates s.contextId) []

/-- Enrols a candidate, and notes the user if the group is open at intake. -/
def enrollCandidate (logs : Bool) (s : Submission) (p : Progress) (c : Candidate) :
    Plan Progress := do
  let p ← enroll logs s p c.group c.userId c.group.recommendOnly
  return if c.group.permits .intake then p.note c.userId else p

def enrollSubEditors (logs : Bool) (s : Submission) (p : Progress) : Plan Progress := do
  (← candidates s).foldlM (enrollCandidate logs s) p

/-- The request to notify a user about a submission. A user who is not named by a text cannot be
notified. -/
def requestFor (s : Submission) (type : NotificationType) (level : NotificationLevel)
    (userId : Value) : Except Fault NotificationRequest :=
  Fault.ofChecked <| ((Record.text userId).under (.field "user_id")).map fun userId =>
    ⟨userId, type, some s.contextId, .submission, s.id, level⟩

/-- Notifies users one after the other; every request counts, whatever comes of it. -/
def notifyAll (s : Submission) (type : NotificationType) (level : NotificationLevel) :
    List Value → Plan (List NotificationRequest)
  | [] => pure []
  | userId :: rest => do
    let request ← Program.ofExcept (requestFor s type level userId)
    let _ ← Plan.notify request.notice
    return request :: (← notifyAll s type level rest)

/-- Withdraws the notifications of pending decisions, notifies whoever is on the list or else the
managers, and withdraws the notifications of a pending approval. -/
def route (s : Submission) (created : List StageAssignment) (notify : List String) :
    Plan Outcome := do
  let _ ← Plan.withdraw NotificationType.pendingDecisions .submission (.text s.id)
  let (notifications, escalated) ←
    if notify.isEmpty then do
      let managers ← Plan.managers (.text s.contextId)
      let managers ← Program.ofExcept (distinctNames managers)
      let sent ← notifyAll s .editorAssignmentRequired .task managers
      pure (sent, true)
    else do
      let sent ← notifyAll s .submissionSubmitted .normal (notify.map .text)
      pure (sent, false)
  let _ ← Plan.withdraw [.approveSubmission] .submission (.text s.id)
  return ⟨created, notify, notifications, escalated⟩

/-- The users on the list, who have to be named by texts. -/
def notified (p : Progress) : Except Fault (List String) :=
  Fault.ofChecked <| (Record.list Record.text (.list p.notify)).under (.field "notify_user_ids")

/-- One run of the routine. Enrolments are logged if `logs` is set. -/
def run (logs : Bool) (s : Submission) (submitter : Value) : Plan Outcome := do
  let p ← enrollSingletons logs s .start
  let p ← carrySubmitter logs s submitter p
  let p ← enrollSubEditors logs s p
  route s p.created (← Program.ofExcept (notified p))

/-!
## Finalizing a submission

The author's last step. A submission within the authoring steps is stored as finalized,
with the date, before the intake routine runs; one that is finalized already only has
the routine run again; one past the authoring steps is left alone.
-/

structure Finalized where
  submission : Submission
  outcome : Outcome
  newlySubmitted : Bool
deriving DecidableEq, Repr

/-- The submission as finalized at a moment. -/
def finalizedAt (s : Submission) (now : Calendar.Moment) : Submission :=
  { s with progress := 0, dateSubmitted := some now, dateLastActivity := some now,
           lastModified := some now }

def submittedEvent (s : Submission) (submitter : Value) : Event where
  submissionId := .text s.id
  userId := submitter
  type := .submissionSubmitted
  messageKey := .text "submission.event.submissionSubmitted"
  params := .null

/-- Finalizes a submission. `logs` says whether enrolments are logged, `notes` whether the step is.
The clock is looked at only if the submission has to be stored. -/
def finalize (logs notes : Bool) (clock : Reading Calendar.Moment) (s : Submission)
    (submitter : Value) : Plan Finalized := do
  if s.isFinalizable then
    let s := finalizedAt s (← Program.ofExcept clock.look)
    Plan.save s
    if notes then
      let _ ← Plan.log (submittedEvent s submitter)
    return ⟨s, ← run logs s submitter, true⟩
  else if s.isFinalized then return ⟨s, ← run logs s submitter, false⟩
  else return ⟨s, .none, false⟩

end EditorialDesk.Intake
