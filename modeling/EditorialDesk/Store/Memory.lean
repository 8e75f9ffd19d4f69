import EditorialDesk.Database.Fault
import EditorialDesk.Intake.Request

/-!
# The collaborators in memory

A store without tables. It answers the same requests, keeps what was asked of it in the
order in which it was asked, and can have services that always fail. Submissions
themselves it does not keep.
-/
namespace EditorialDesk.Store

/-- The services that requests are put to. -/
inductive Service where
  | groupsForStage
  | groupsForUser
  | group
  | members
  | subEditors
  | managers
  | assignments
  | enroll
  | notify
  | withdraw
  | log
  | save
deriving DecidableEq, Repr

/-- The service that a request is put to. -/
def Service.of : Request → Service
  | .groupsForStage .. => groupsForStage
  | .groupsForUser .. => groupsForUser
  | .group _ => group
  | .members .. => members
  | .subEditors .. => subEditors
  | .managers _ => managers
  | .assignments _ => assignments
  | .enroll .. => enroll
  | .notify _ => notify
  | .withdraw .. => withdraw
  | .log _ => log
  | .save _ => save

/-- A group with its members as listed. -/
structure Roster where
  group : UserGroup
  members : List Value
deriving DecidableEq, Repr

/-- A sub-editor's place in a grouping. -/
structure Binding where
  grouping : Grouping
  userId : Value
deriving DecidableEq, Repr

/-- A withdrawal of notifications. -/
structure Withdrawal where
  types : List NotificationType
  targetType : TargetType
  targetId : Value
deriving DecidableEq, Repr

structure Memory where
  rosters : List Roster
  bindings : List Binding
  assignments : List StageAssignment
  attempts : List Enrollment
  emitted : List Notice
  withdrawn : List Withdrawal
  events : List LogEntry
  outages : List (Service × CallFault)
deriving DecidableEq, Repr

namespace Memory

def empty : Memory := ⟨[], [], [], [], [], [], [], []⟩

/-- Puts a group into a list of rosters, in place of one of its identity. -/
def putRoster : List Roster → Roster → List Roster
  | [], r => [r]
  | old :: rest, r => if old.group.id == r.group.id then r :: rest else old :: putRoster rest r

def addRoster (m : Memory) (r : Roster) : Memory := { m with rosters := putRoster m.rosters r }

/-- An identity made of a tag and the place in a list. -/
def numberedId (tag : String) (earlier : Nat) : String := tag ++ "-" ++ toString (earlier + 1)

/-- Adds a sub-editor, if the grouping has a name. -/
def bind (m : Memory) (b : Binding) : Except Fault Memory := do
  let _ ← Fault.named b.grouping.id
  return { m with bindings := m.bindings ++ [b] }

/-- Adds an assignment as found, without a date, if its values are those of an assignment. -/
def seed (m : Memory) (submissionId groupId userId : Value) : Record.Checked Memory :=
  (StageAssignment.ofFields [("submission_id", submissionId), ("user_group_id", groupId),
    ("user_id", userId)]).map fun a =>
      let a := { a with id := some (numberedId "sa" m.assignments.length) }
      { m with assignments := m.assignments ++ [a] }

/-- The group of a name, with its members. -/
def roster? (m : Memory) (groupId : Value) : Option Roster :=
  m.rosters.find? fun r => groupId == .text r.group.id

/-- Whether a group belongs to a context. -/
def isIn (contextId : Value) (g : UserGroup) : Bool := contextId == .text g.contextId

def groupsForStage (m : Memory) (contextId : Value) (stage : Stage) : List UserGroup :=
  (m.rosters.map (·.group)).filter fun g => isIn contextId g && g.permits stage

def groupsForUser (m : Memory) (userId contextId : Value) : List UserGroup :=
  (m.rosters.filter fun r => isIn contextId r.group && r.members.any (·.alike userId)).map
    (·.group)

def group? (m : Memory) (id : Value) : Except Fault (Option UserGroup) := do
  return (m.roster? (← Fault.named id)).map (·.group)

/-- The members as listed, if the group is one of the context. -/
def members (m : Memory) (groupId contextId : Value) : Except Fault (List Value) := do
  match m.roster? (← Fault.named groupId) with
  | some r => return if isIn contextId r.group then r.members else []
  | none => return []

def subEditors (m : Memory) (grouping : Grouping) : Except Fault (List Value) := do
  let id ← Fault.named grouping.id
  return (m.bindings.filter fun b => b.grouping.type == grouping.type && b.grouping.id.alike id).map
    (·.userId)

def managers (m : Memory) (contextId : Value) : Except Fault (List Value) :=
  distinctNames <| (m.rosters.filter fun r =>
    isIn contextId r.group && r.group.role == .manager).flatMap (·.members)

/-- Whether a group is known and open at a stage. -/
def opens (m : Memory) (groupId : String) (stage : Stage) : Bool :=
  (m.roster? (.text groupId)).any (·.group.permits stage)

/-- Whether an assignment is one of those asked for. -/
def matchesQuery (m : Memory) (q : AssignmentQuery) (a : StageAssignment) : Bool :=
  q.submissionId == .text a.seat.submissionId && q.groupId.all (· == .text a.seat.groupId) &&
    q.userId.all (· == .text a.seat.userId) && q.stage.all (m.opens a.seat.groupId)

/-- Notes the attempt, and takes the seat if it is free. Only then is the clock looked at, and then
are the values of the enrolment checked. -/
def enroll (m : Memory) (clock : Reading Calendar.Moment) (e : Enrollment) :
    Except Fault (Option StageAssignment) × Memory :=
  let m := { m with attempts := m.attempts ++ [e] }
  if m.assignments.any (e.isFor ·.seat) then (.ok none, m)
  else
    match (do
      let now ← clock.look
      let id := numberedId "sa" m.assignments.length
      Fault.ofChecked (StageAssignment.ofEnrollment id now e)) with
    | .error fault => (.error fault, m)
    | .ok a => (.ok (some a), { m with assignments := m.assignments ++ [a] })

def log (m : Memory) (clock : Reading Calendar.Moment) (e : Event) :
    Except Fault LogEntry × Memory :=
  match (do
    let now ← clock.look
    let id := numberedId "ev" m.events.length
    Fault.ofChecked (LogEntry.ofEvent (some id) now e)) with
  | .error fault => (.error fault, m)
  | .ok entry => (.ok entry, { m with events := m.events ++ [entry] })

/-- The answer to a request whose service works. -/
def answer (clock : Reading Calendar.Moment) (m : Memory) :
    (q : Request) → Except Fault q.Answer × Memory
  | .groupsForStage contextId stage => (.ok (m.groupsForStage contextId stage), m)
  | .groupsForUser userId contextId => (.ok (m.groupsForUser userId contextId), m)
  | .group id => (m.group? id, m)
  | .members groupId contextId => (m.members groupId contextId, m)
  | .subEditors grouping _ => (m.subEditors grouping, m)
  | .managers contextId => (m.managers contextId, m)
  | .assignments query => (.ok (m.assignments.filter (m.matchesQuery query)), m)
  | .enroll enrollment => m.enroll clock enrollment
  | .notify notice =>
    (.ok (some (.object notice.fields)), { m with emitted := m.emitted ++ [notice] })
  | .withdraw types target targetId =>
    (.ok 0, { m with withdrawn := m.withdrawn ++ [⟨types, target, targetId⟩] })
  | .log event => m.log clock event
  | .save _ => (.ok (), m)

/-- The answer to a request, or the fault of a service that is out. -/
def serve (clock : Reading Calendar.Moment) (q : Request) (m : Memory) :
    Except Fault q.Answer × Memory :=
  match m.outages.find? (·.1 == Service.of q) with
  | some (_, fault) => (.error (.ofCall fault), m)
  | none => m.answer clock q

end Memory
end EditorialDesk.Store
