import EditorialDesk.Database.Basic
import EditorialDesk.Database.Fault
import EditorialDesk.Program

/-!
# Performing queries

A query fails as scripted, violates a constraint or takes effect, and it is noted
whichever of these happens. Only a query whose fate cannot be told is not noted.
-/
namespace EditorialDesk.Database

/-!
## Constraints

A seat can be taken only once, and a notification needs a user who exists. Both are
checked before a row is inserted; the check itself can fail, where the table of seats
holds something else than rows or where nothing could name the user.
-/

/-- The seat that a row of stage assignments takes, as labels. -/
def seatLabels (row : Row) : List String :=
  [row.label "submission_id", row.label "user_group_id", row.label "user_id"]

def seatTaken : DatabaseError :=
  ⟨[("code", .text "23505"),
    ("message",
      .text "duplicate key value violates unique constraint \"stage_assignments_unique\"")]⟩

def unknownUser : DatabaseError :=
  ⟨[("code", .text "23503"),
    ("message",
      .text <| "insert or update on table \"notifications\" violates foreign key constraint " ++
        "\"notifications_user_id_fkey\"")]⟩

/-- Whether one of some entries takes a seat. The entries are gone through in order, as far as they
are rows. -/
def takenAmong (seat : List String) : List Value → Except CallFault Bool
  | [] => .ok false
  | .object row :: rest => if seatLabels row == seat then .ok true else takenAmong seat rest
  | _ :: _ => .error .noFields

/-- Whether the seat of a row is taken. -/
def takesSeat (db : Database) (row : Row) : Except CallFault Bool :=
  match db.unreadable? Table.stageAssignments with
  | none => .ok ((db.rows Table.stageAssignments).any (seatLabels · == seatLabels row))
  | some contents =>
    match contents.entries? with
    | some entries => takenAmong (seatLabels row) entries
    | none => .error .badType

/-- The constraint that an insert would violate. -/
def violation? (db : Database) (table : String) (row : Row) :
    Except CallFault (Option DatabaseError) := do
  if db.unique && table == Table.stageAssignments then
    return if ← db.takesSeat row then some seatTaken else none
  else if table == Table.notifications then
    let userId := row.get "user_id"
    if !userId.isName then .error .badType
    else return if db.orphans.any (·.alike userId) then some unknownUser else none
  else return none

/-!
## Tables without rows

What a query does to a table that holds something else than rows. It fails as soon as it
comes upon what is no row; what is empty holds nothing of that kind, and an insert into
a list looks at nothing that the list holds.
-/

/-- The rows of a table's contents, if they can be gone through and are rows. -/
def rowsOf (contents : Value) : Except CallFault (List Row) :=
  match contents.entries? with
  | none => .error .badType
  | some entries => entries.mapM fun
    | .object row => .ok row
    | _ => .error .noFields

/-- What a query does to a table without rows, which it finds empty if it finds anything. -/
def applyUnreadable (db : Database) (contents : Value) :
    (c : Call) → Except CallFault c.Answer × Database
  | .select .. | .update .. => (rowsOf contents, db)
  | .insert table row =>
    match contents with
    | .list items =>
      let stored := identified table items.length row
      (db.reply table stored, db.put table (.list (items ++ [.object stored])))
    | .text _ | .object _ => (.error .noFields, db)
    | _ => (.error .badType, db)
  | .delete table _ =>
    match rowsOf contents with
    | .ok rows => (.ok rows, db.put table (.list []))
    | .error fault => (.error fault, db)

/-! ## Performing queries -/

/-- The fault that is scripted for a query, and the scripts after it. -/
def trigger (c : Call) : List Script → Except CallFault (Option CallFault × List Script)
  | [] => .ok (none, [])
  | s :: rest =>
    if s.concerns c then
      match s.after with
      | none => .error .badType
      | some 0 => .ok (some s.fault, s :: rest)
      | some (n + 1) => .ok (none, { s with after := some n } :: rest)
    else (trigger c rest).map fun (fault, rest) => (fault, s :: rest)

/-- What a query does to a table of rows once nothing stands in its way, and its answer. -/
def applyRows (db : Database) : (c : Call) → Except CallFault c.Answer × Database
  | .select table filters order =>
    (.ok (arrange order ((db.rows table).filter (meets filters))), db)
  | .insert table row =>
    let stored := identified table (db.rows table).length row
    (db.reply table stored, db.setRows table (db.rows table ++ [stored]))
  | .update table patch filters =>
    let change (row : Row) : Row := if meets filters row then row.merge patch else row
    (.ok (((db.rows table).filter (meets filters)).map (·.merge patch)),
      db.setRows table ((db.rows table).map change))
  | .delete table filters =>
    let matched := (db.rows table).filter (meets filters)
    (.ok matched,
      db.setRows table ((db.rows table).filter fun row => !matched.any (Value.alikeRows row)))

/-- What a query does to its table. -/
def apply (db : Database) (c : Call) : Except CallFault c.Answer × Database :=
  match db.unreadable? c.table with
  | none => db.applyRows c
  | some contents => db.applyUnreadable contents c

/-- What a query would violate; only inserts are constrained. -/
def obstacle? (db : Database) : Call → Except CallFault (Option DatabaseError)
  | .insert table row => db.violation? table row
  | _ => .ok none

/-- Notes a query, and lets it fail as scripted, violate a constraint or take effect. A query that
comes upon an unfit value before all that is not noted, though a script counts it. -/
def perform (db : Database) (c : Call) : Except CallFault c.Answer × Database :=
  match trigger c db.scripts with
  | .error fault => (.error fault, db)
  | .ok (some fault, scripts) => (.error fault, { db with scripts }.note c)
  | .ok (none, scripts) =>
    let db := { db with scripts }
    match db.obstacle? c with
    | .error fault => (.error fault, db)
    | .ok (some e) => (.error (.rejected e), db.note c)
    | .ok none => (db.note c).apply c

end EditorialDesk.Database

/-!
## Sessions

A session is a program of queries. Each query is answered or fails, so that a session can
deal with the fault of one query and end with that of another.
-/
namespace EditorialDesk

/-- A program of queries: each has an answer or a fault. -/
abbrev Session (α : Type) : Type :=
  Program Call (fun c => Except CallFault c.Answer) Fault α

namespace Session

/-- Goes on from the answer of a query, or deals with its fault. -/
def attempt {α : Type} (c : Call) (onAnswer : c.Answer → Session α)
    (onFault : CallFault → Session α) : Session α :=
  .ask c fun
    | .ok answer => onAnswer answer
    | .error fault => onFault fault

/-- A query whose fault is passed on as it is. -/
def execute (c : Call) : Session c.Answer := attempt c .done fun f => .fault (.ofCall f)

/-- A look-up, which reports a missing table by name. -/
def lookup (table : String) (filters : List Filter) (order : List String) : Session (List Row) :=
  attempt (.select table filters order) .done fun f => .fault (.ofLookup f)

/-- Runs a session on a database. -/
def run {α : Type} (s : Session α) (db : Database) : Except Fault α × Database :=
  Program.run (fun c db => (.ok (db.perform c).1, (db.perform c).2)) s db

end Session
end EditorialDesk
