import EditorialDesk.Intake.Routine
import EditorialDesk.Settings
import EditorialDesk.Store.Memory
import EditorialDesk.Store.Register

/-!
# Operations

The operations that a desk performs one after the other, and their replies. An
operation that fails replies with its fault; what it has written by then stays.
-/
namespace EditorialDesk

/-!
## The desk

Everything that an operation of the workflow can read or change: the database, the
store in memory, the clock, the settings and the submission finalized last. Which
store answers the requests of a plan is fixed for a desk.
-/

/-- Where the collaborators of the intake are. -/
inductive Backing where
  | database
  | memory
  /-- A database whose connection was never configured. -/
  | unconfigured
deriving DecidableEq, Repr

structure Desk where
  backing : Backing
  database : Database
  memory : Store.Memory
  clock : Reading Calendar.Moment
  settings : Reading WorkflowSettings
  last : Option Submission

namespace Desk

/-- Runs a session where no connection can be opened: every query fails. -/
def runUnconnected {α : Type} (s : Session α) : Except Fault α :=
  (Program.run (fun _ u => (.ok (.error (.broken ConnectionFault.keyMissing.message)), u)) s ()).1

/-- Runs a session on the desk's database. -/
def runSession {α : Type} (d : Desk) (s : Session α) : Except Fault α × Desk :=
  let (r, db) := s.run d.database
  (r, { d with database := db })

/-- Submissions themselves are kept in the database, whatever else is kept in memory. -/
def serve (q : Request) (d : Desk) : Except Fault q.Answer × Desk :=
  match d.backing with
  | .database => d.runSession (Store.session d.clock q)
  | .unconfigured => (runUnconnected (Store.session d.clock q), d)
  | .memory =>
    if Store.Service.of q == .save then d.runSession (Store.session d.clock q)
    else
      let (r, m) := d.memory.serve d.clock q
      (r, { d with memory := m })

/-- Carries out a plan, one request after the other. -/
def carryOut {α : Type} (d : Desk) (plan : Plan α) : Except Fault α × Desk := plan.run serve d

end Desk

/-! ## Operations -/

/-- A submission as given, or the one finalized last. -/
inductive SubmissionRef where
  | given (s : Submission)
  | last
deriving DecidableEq, Repr

inductive Operation where
  | setClock (clock : Reading Calendar.Moment)
  | fail (script : Script)
  | unfail
  | put (table : String) (contents : Value)
  | groupsForStage (contextId : Value) (stage : Stage)
  | groupsForUser (userId contextId : Value)
  | group (id : Value)
  | members (groupId contextId : Value)
  | subEditors (grouping : Grouping) (contextId : Value)
  | managers (contextId : Value)
  | assignments (query : AssignmentQuery)
  | enroll (enrollment : Enrollment)
  | notify (notice : Notice)
  | withdraw (types : List NotificationType) (targetId : Value)
  | log (event : Event)
  | candidates (submission : Reading SubmissionRef)
  | run (submission : Reading SubmissionRef) (submitter : Value) (logs : Bool)
  | finalize (submission : Reading SubmissionRef) (submitter : Value) (logs notes : Bool)
      (now : Option Calendar.Moment)
deriving DecidableEq, Repr

inductive Reply where
  | nothing
  | groups (gs : List UserGroup)
  | group (g : Option UserGroup)
  | users (ids : List Value)
  | assignments (as : List StageAssignment)
  | enrolled (a : Option StageAssignment)
  | row (r : Option Value)
  | count (n : Nat)
  | entry (e : LogEntry)
  | candidates (cs : List Intake.Candidate)
  | outcome (o : Intake.Outcome)
  | finalized (f : Intake.Finalized)
deriving DecidableEq, Repr

namespace Desk

/-- Carries out a plan and wraps its result. -/
def replyTo {α : Type} (d : Desk) (wrap : α → Reply) (plan : Plan α) : Except Fault Reply × Desk :=
  match d.carryOut plan with
  | (.ok a, d) => (.ok (wrap a), d)
  | (.error e, d) => (.error e, d)

/-- The submission that a reference stands for; where none has been finalized, the reference stands
for nothing that could be read as a submission. -/
def submission (d : Desk) : SubmissionRef → Except Fault Submission
  | .given s => .ok s
  | .last =>
    match d.last with
    | some s => .ok s
    | none => .error (.invalid [⟨[], .notRecord⟩])

/-- Goes on with the submission of an operation, and with whether enrolments are logged: where the
operation wants it and the settings allow it. The settings are looked at before the submission. -/
def intake (d : Desk) (ref : Reading SubmissionRef) (wanted : Bool)
    (go : (logs : Bool) → Submission → Except Fault Reply × Desk) : Except Fault Reply × Desk :=
  match (do
    let settings ← d.settings.look
    return (wanted && settings.logEvents, ← d.submission (← ref.look))) with
  | .ok (logs, s) => go logs s
  | .error fault => (.error fault, d)

def finalize (d : Desk) (s : Submission) (submitter : Value) (logs notes : Bool)
    (clock : Reading Calendar.Moment) : Except Fault Reply × Desk :=
  match d.carryOut (Intake.finalize logs notes clock s submitter) with
  | (.ok f, d) => (.ok (.finalized f), { d with last := some f.submission })
  | (.error e, d) => (.error e, d)

def perform (d : Desk) : Operation → Except Fault Reply × Desk
  | .setClock clock => (.ok .nothing, { d with clock })
  | .fail script => (.ok .nothing, { d with database := d.database.script script })
  | .unfail => (.ok .nothing, { d with database := { d.database with scripts := [] } })
  | .put table contents => (.ok .nothing, { d with database := d.database.put table contents })
  | .groupsForStage contextId stage => d.replyTo .groups (Plan.groupsForStage contextId stage)
  | .groupsForUser userId contextId => d.replyTo .groups (Plan.groupsForUser userId contextId)
  | .group id => d.replyTo .group (Plan.group? id)
  | .members groupId contextId => d.replyTo .users (Plan.members groupId contextId)
  | .subEditors grouping contextId => d.replyTo .users (Plan.subEditors grouping contextId)
  | .managers contextId => d.replyTo .users (Plan.managers contextId)
  | .assignments query => d.replyTo .assignments (Plan.assignments query)
  | .enroll enrollment => d.replyTo .enrolled (Plan.enroll? enrollment)
  | .notify notice => d.replyTo .row (Plan.notify notice)
  | .withdraw types targetId => d.replyTo .count (Plan.withdraw types .submission targetId)
  | .log event => d.replyTo .entry (Plan.log event)
  | .candidates ref => d.intake ref false fun _ s => d.replyTo .candidates (Intake.candidates s)
  | .run ref submitter wanted =>
    d.intake ref wanted fun logs s => d.replyTo .outcome (Intake.run logs s submitter)
  | .finalize ref submitter wanted notes now =>
    d.intake ref wanted fun logs s =>
      d.finalize s submitter logs notes ((now.map .shows).getD d.clock)

/-- The desk after a history of operations, whatever their replies. -/
def after (d : Desk) (ops : List Operation) : Desk := ops.foldl (fun d op => (d.perform op).2) d

end Desk
end EditorialDesk
