import EditorialDesk.Database.Fault
import EditorialDesk.Database.Perform
import EditorialDesk.Intake.Request
import EditorialDesk.Text.Whole

/-!
# The directory in the database

User groups with their stages, members and sub-editors, looked up in five tables. Rows
that name nothing are skipped; a group whose role is none fails the look-up.
-/
namespace EditorialDesk.Value

/-!
## Whole numbers in columns

The whole number that the value of a column stands for: a truth value is one or zero,
a float is cut off at its point, a text is read in the grammar of columns.
-/

def toWhole : Value → Except Fault Int
  | .bool b => .ok (if b then 1 else 0)
  | .int n => .ok n
  | .float .nan => .error .badValue
  | .float x =>
    match x.truncate? with
    | some n => .ok n
    | none => .error .overflow
  | .text s => Fault.needed (Text.whole? s.toList)
  | .null | .list _ | .object _ => .error .badType

end EditorialDesk.Value

/-! ## The directory in the database -/
namespace EditorialDesk.Store

/-- The labels of a column, without those of absent values. -/
def presentLabels (column : String) (rows : List Row) : List String :=
  (rows.filter fun r => (r.get column).isPresent).map (·.label column)

/-- The users that rows name, each once. -/
def usersOf (rows : List Row) : List Value :=
  (distinct ((rows.map (·.labelOrEmpty "user_id")).filter (· != ""))).map .text

/-- A row that says that a group is open at a stage, as group and stage. -/
def stageGrant? (row : Row) : Option (String × Stage) :=
  (Stage.ofValue? (row.get "stage_id")).map (row.labelOrEmpty "user_group_id", ·)

/-- The grants of stages to the given groups. -/
def grants (groupIds : List String) : Session (List (String × Stage)) :=
  if groupIds.isEmpty then pure []
  else do
    let rows ← Session.lookup Table.userGroupStages [.among "user_group_id" groupIds] []
    return rows.filterMap stageGrant?

/-- The stages granted to a group. -/
def stagesFor (granted : List (String × Stage)) (groupId : String) : List Stage :=
  Stage.gather ((granted.filter (·.1 == groupId)).map (·.2))

/-- The role that a row names by its number. -/
def roleOf (row : Row) : Except Fault Role := do
  match row.get? "role_id" with
  | none => .error (.missingField "role_id")
  | some v => Fault.needed (Role.ofCode? (← v.toWhole))

/-- The group of a row. -/
def groupOf (granted : List (String × Stage)) (row : Row) : Except Fault UserGroup := do
  let role ← roleOf row
  return ⟨row.label "id", row.labelOrEmpty "context_id", role, row.labelOrEmpty "name",
    (row.get "recommend_only").isPresent, stagesFor granted (row.label "id")⟩

/-- The groups of the given identities in ascending order: those of one context, or all where the
context is null. -/
def groupsAmong (ids : List String) (contextId : Value) : Session (List UserGroup) :=
  if ids.isEmpty then pure []
  else do
    let inContext := if contextId == .null then [] else [.equals "context_id" contextId.label]
    let rows ← Session.lookup Table.userGroups (.among "id" ids :: inContext) ["id"]
    let kept := rows.filter fun r => (r.get "id").isPresent
    let granted ← grants (kept.map (·.label "id"))
    Program.ofExcept (kept.mapM (groupOf granted))

def groupsForStage (contextId : Value) (stage : Stage) : Session (List UserGroup) := do
  let rows ← Session.lookup Table.userGroupStages
    [.equals "context_id" contextId.label, .equals "stage_id" (toString stage.code)] []
  groupsAmong (presentLabels "user_group_id" rows) contextId

def groupsForUser (userId contextId : Value) : Session (List UserGroup) := do
  let rows ← Session.lookup Table.memberships [.equals "user_id" userId.label] []
  groupsAmong (presentLabels "user_group_id" rows) contextId

def group? (id : Value) : Session (Option UserGroup) := do
  let id ← Program.ofExcept (Fault.named id)
  return (← groupsAmong [id.label] .null).head?

/-- The members of a group, if it is a group of the context. -/
def members (groupId contextId : Value) : Session (List Value) := do
  match ← group? groupId with
  | none => return []
  | some g =>
    if g.contextId == contextId.label then
      return usersOf (← Session.lookup Table.memberships
        [.equals "user_group_id" groupId.label] ["user_id"])
    else return []

def subEditors (grouping : Grouping) (contextId : Value) : Session (List Value) := do
  return usersOf (← Session.lookup Table.subEditors
    [.equals "context_id" contextId.label, .equals "assoc_type" grouping.type.word,
      .equals "assoc_id" grouping.id.label] ["user_id"])

/-- The members of the managers' groups of a context. -/
def managers (contextId : Value) : Session (List Value) := do
  let rows ← Session.lookup Table.userGroups
    [.equals "context_id" contextId.label, .equals "role_id" (toString Role.manager.code)] []
  let ids := presentLabels "id" rows
  if ids.isEmpty then return []
  else
    return usersOf
      (← Session.lookup Table.memberships [.among "user_group_id" ids] ["user_id"])

end EditorialDesk.Store
