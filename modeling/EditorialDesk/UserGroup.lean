import EditorialDesk.Record.Field
import EditorialDesk.Stage
import EditorialDesk.Value.Basic

/-!
# User groups and their members

A user group belongs to one context, gives its members a role there and is open to
them at certain stages of the workflow.
-/
namespace EditorialDesk

/-!
## Roles

The closed list of roles that a user group can have.
-/

inductive Role where
  | siteAdmin
  | manager
  | subEditor
  | assistant
  | reviewer
  | author
  | reader
deriving DecidableEq, Repr

namespace Role

def all : List Role := [siteAdmin, manager, subEditor, assistant, reviewer, author, reader]

theorem mem_all (r : Role) : r ∈ all := by cases r <;> decide

/-- The number by which tables refer to the role. -/
def code : Role → Int
  | siteAdmin => 1
  | manager => 16
  | subEditor => 17
  | assistant => 4097
  | reviewer => 4096
  | author => 65536
  | reader => 1048576

def name : Role → String
  | siteAdmin => "SITE_ADMIN"
  | manager => "MANAGER"
  | subEditor => "SUB_EDITOR"
  | assistant => "ASSISTANT"
  | reviewer => "REVIEWER"
  | author => "AUTHOR"
  | reader => "READER"

def ofCode? (n : Int) : Option Role := all.find? (·.code == n)

theorem ofCode?_code (r : Role) : ofCode? r.code = some r := by cases r <;> rfl

/-- Roles whose group, if it has a single member, is enrolled at intake. -/
def isIntakeSingleton (r : Role) : Bool := r == manager || r == assistant

/-- The names of these roles in alphabetical order. -/
def intakeSingletonNames : List String := [assistant.name, manager.name]

end Role

/-! ## User groups -/

structure UserGroup where
  id : String
  contextId : String
  role : Role
  name : String
  recommendOnly : Bool
  /-- In order and without repeats. -/
  stages : List Stage
deriving DecidableEq, Repr

namespace UserGroup

def permits (g : UserGroup) (s : Stage) : Bool := g.stages.contains s

open Record in
def ofFields (fields : Fields) : Checked UserGroup :=
  mk <$> required "id" text fields <*> required "context_id" text fields <*>
    required "role_id" (numbered Role.ofCode?) fields <*> withDefault "name" "" text fields <*>
    withDefault "recommend_only" false truth fields <*>
    withDefault "stages" [] (fun v => (set (numbered Stage.ofCode?) v).map Stage.gather) fields

def read : Record.Check UserGroup := Record.record ofFields

def toValue (g : UserGroup) : Value :=
  .object [("id", .text g.id), ("context_id", .text g.contextId), ("role_id", .int g.role.code),
    ("name", .text g.name), ("recommend_only", .bool g.recommendOnly),
    ("stages", .list (g.stages.map fun s => .int s.code))]

end UserGroup

/-!
## Stage assignments

A participant's place in a submission. The seat (submission, user group, user) is
what may be taken only once; identity and date are set where the place is stored.
-/

/-- What a participant takes part in, through which group, and who it is. -/
structure Seat where
  submissionId : String
  groupId : String
  userId : String
deriving DecidableEq, Repr

structure StageAssignment where
  id : Option String
  seat : Seat
  recommendOnly : Bool
  dateAssigned : Option Calendar.Moment
deriving DecidableEq, Repr

namespace StageAssignment

open Record in
def ofFields (fields : Fields) : Checked StageAssignment :=
  (fun id submission group user recommendOnly date =>
      mk id ⟨submission, group, user⟩ recommendOnly date) <$>
    optional "id" text fields <*> required "submission_id" text fields <*>
    required "user_group_id" text fields <*> required "user_id" text fields <*>
    withDefault "recommend_only" false truth fields <*> optional "date_assigned" moment fields

def read : Record.Check StageAssignment := Record.record ofFields

def toValue (a : StageAssignment) : Value :=
  .object [("id", .ofText? a.id), ("submission_id", .text a.seat.submissionId),
    ("user_group_id", .text a.seat.groupId), ("user_id", .text a.seat.userId),
    ("recommend_only", .bool a.recommendOnly), ("date_assigned", .ofMoment? a.dateAssigned)]

end StageAssignment

def Seat.toValue (s : Seat) : Value := .ofTexts [s.submissionId, s.groupId, s.userId]

/-- The wish to enrol a user. A caller may give any values. -/
structure Enrollment where
  submissionId : Value
  groupId : Value
  userId : Value
  recommendOnly : Value
deriving DecidableEq, Repr

namespace Enrollment

def fields (e : Enrollment) : Fields :=
  [("submission_id", e.submissionId), ("user_group_id", e.groupId), ("user_id", e.userId),
    ("recommend_only", e.recommendOnly)]

/-- Whether two enrolments are for one seat. -/
def sharesSeat (e other : Enrollment) : Bool :=
  e.submissionId.alike other.submissionId && e.groupId.alike other.groupId &&
    e.userId.alike other.userId

/-- Whether an enrolment is for a seat. -/
def isFor (e : Enrollment) (s : Seat) : Bool :=
  e.submissionId == .text s.submissionId && e.groupId == .text s.groupId &&
    e.userId == .text s.userId

end Enrollment

/-- The assignment of an enrolment, if its values are those of an assignment. -/
def StageAssignment.ofEnrollment (id : String) (now : Calendar.Moment) (e : Enrollment) :
    Record.Checked StageAssignment :=
  (ofFields e.fields).map fun a => { a with id := some id, dateAssigned := some now }

end EditorialDesk
