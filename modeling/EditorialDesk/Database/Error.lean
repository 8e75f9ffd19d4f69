import EditorialDesk.Text.Casing
import EditorialDesk.Value.Printer

/-!
# Errors of the database

An error is an object of any fields. It is classified by searching a lower-case text
made of its code, its message and its whole printed form.
-/
namespace EditorialDesk.Table

/-!
## Tables

The names of the tables that the workflow reads and writes.
-/

abbrev userGroups : String := "user_groups"
abbrev userGroupStages : String := "user_group_stages"
abbrev memberships : String := "user_user_groups"
abbrev stageAssignments : String := "stage_assignments"
abbrev subEditors : String := "subeditor_submission_groups"
abbrev notifications : String := "notifications"
abbrev eventLog : String := "submission_event_logs"
abbrev submissions : String := "submissions"

/-- The tables that an error can report missing, in the order in which they are looked for. A name
that contains another comes before it. -/
def searched : List String :=
  [memberships, userGroupStages, userGroups, stageAssignments, subEditors]

end EditorialDesk.Table

/-! ## Errors of the database -/
namespace EditorialDesk

/-- The table whose absence a lower-case text reports, if it reports one. -/
def missingTableIn? (text : String) : Option String :=
  if Text.holds text "pgrst205" || Text.holds text "does not exist" then
    Table.searched.find? (Text.holds text)
  else none

/-- An error as the database reports it. -/
structure DatabaseError where
  payload : Fields
deriving DecidableEq, Repr

namespace DatabaseError

def code (e : DatabaseError) : Value := e.payload.get "code"

def message (e : DatabaseError) : Value := e.payload.get "message"

/-- The printed form of the whole error. -/
def printed (e : DatabaseError) : String := (Value.object e.payload).printed

/-- Code, message and the whole error, in lower case. -/
def text (e : DatabaseError) : String :=
  Text.lower (e.code.labelOrEmpty ++ " " ++ e.message.labelOrEmpty ++ " " ++ e.printed)

def missingTable? (e : DatabaseError) : Option String := missingTableIn? e.text

/-- Whether a row was refused because its like is there already. -/
def isUniqueViolation (e : DatabaseError) : Bool := Text.holds e.text "23505"

/-- Whether a notification was refused because its user does not exist. -/
def isOrphanUser (e : DatabaseError) : Bool :=
  let code := Text.lower e.code.labelOrEmpty
  let text := Text.lower (e.message.labelOrEmpty ++ " " ++ e.printed)
  (Text.holds code "23503" || Text.holds text "23503") &&
    (Text.holds text "notifications_user_id_fkey" || Text.holds text "foreign key")

end DatabaseError

/-- The table that a bare text reports missing. -/
def missingTableOf? (text : String) : Option String := missingTableIn? (Text.lower text)

/-- How a single query fails. -/
inductive CallFault where
  /-- The database refuses it. -/
  | rejected (e : DatabaseError)
  /-- No database answers. -/
  | broken (message : String)
  /-- It comes upon a value of a kind with which nothing can be done. -/
  | badType
  /-- It comes upon something without fields in place of a row. -/
  | noFields
deriving DecidableEq, Repr

end EditorialDesk
