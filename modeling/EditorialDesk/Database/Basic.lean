import EditorialDesk.Database.Error
import EditorialDesk.Database.Query
import EditorialDesk.Value.Basic

/-!
# The database

Tables of rows in order, the failures that are scripted for it and the queries that it
has seen. A table may be given something else to hold than rows; it then has none.
-/
namespace EditorialDesk.Value

/-!
## Parts by name

What a name picks out of a value. Only objects have parts with names. A text or a list
can be asked whether a name occurs in it, and has nothing to show for one that does.
-/

/-- The part that a name picks out, if there is one. -/
def part? (v : Value) (name : String) : Except CallFault (Option Value) :=
  match v with
  | .object fields => .ok (Fields.get? fields name)
  | .text s => if Text.holds s name then .error .badType else .ok none
  | .list items => if items.contains (.text name) then .error .badType else .ok none
  | _ => .error .badType

end EditorialDesk.Value

/-! ## The database -/
namespace EditorialDesk

/-- A failure to come: queries of a kind on a table fail once `after` of them have passed. The kind
is given by its word; a word of no kind stands for no query. -/
structure Script where
  table : String
  word : String
  /-- None where what was given is no number, and then the queries cannot be counted. -/
  after : Option Nat
  fault : CallFault
deriving DecidableEq, Repr

/-- How many queries pass that a script is to let pass: a fraction lets one more pass, and infinity
more than any other number. What is no number has no count. -/
def Script.passes? : Value → Option Nat
  | .float .nan => some 0
  | .float (.infinite negative) => some (if negative then 0 else Binary64.pow2 1024)
  | v => v.fraction?.map fun (n, d) => ((n + d - 1) / d).toNat

def Script.concerns (s : Script) (c : Call) : Bool := s.table == c.table && s.word == c.kind.word

structure Database where
  tables : List (String × List Row)
  /-- The tables that hold something else than rows. -/
  unreadable : Fields
  /-- Whether a seat can be taken only once. -/
  unique : Bool
  /-- Users that cannot be notified. -/
  orphans : List Value
  /-- What inserts answer in place of the row, by the name of the table. -/
  replies : Value
  scripts : List Script
  /-- The queries so far, oldest first. -/
  calls : List (String × QueryKind)
deriving DecidableEq, Repr

namespace Database

def empty : Database := ⟨[], [], true, [], .object [], [], []⟩

/-- The rows of a table; a table that was never written has none. -/
def rows (db : Database) (table : String) : List Row :=
  ((db.tables.find? (·.1 == table)).map (·.2)).getD []

/-- Replaces the rows of a table in a list of tables. -/
def putRows : List (String × List Row) → String → List Row → List (String × List Row)
  | [], table, rows => [(table, rows)]
  | (t, old) :: rest, table, rows =>
    if t == table then (t, rows) :: rest else (t, old) :: putRows rest table rows

def setRows (db : Database) (table : String) (rows : List Row) : Database :=
  { db with tables := putRows db.tables table rows }

theorem rows_setRows_self (db : Database) (table : String) (rows : List Row) :
    (db.setRows table rows).rows table = rows := by
  have h : ∀ ts : List (String × List Row),
      (putRows ts table rows).find? (·.1 == table) = some (table, rows) := by
    intro ts
    induction ts with
    | nil => simp [putRows]
    | cons p rest ih =>
      obtain ⟨t, old⟩ := p
      by_cases ht : t = table
      · simp [putRows, ht]
      · simpa [putRows, ht] using ih
  simp [Database.rows, setRows, h]

theorem rows_setRows_of_ne (db : Database) {table other : String} (hne : other ≠ table)
    (rows : List Row) : (db.setRows table rows).rows other = db.rows other := by
  have h : ∀ ts : List (String × List Row),
      (putRows ts table rows).find? (·.1 == other) = ts.find? (·.1 == other) := by
    intro ts
    induction ts with
    | nil => simp [putRows, hne.symm]
    | cons p rest ih =>
      obtain ⟨t, old⟩ := p
      by_cases ht : t = table
      · simp [putRows, ht, hne.symm]
      · by_cases ho : t = other
        · subst ho
          simp [putRows, ht]
        · simpa [putRows, ht, ho] using ih
  simp [Database.rows, setRows, h]

/-- What a table holds in place of rows. -/
def unreadable? (db : Database) (table : String) : Option Value := db.unreadable.get? table

/-- What a table holds. -/
def contents (db : Database) (table : String) : Value :=
  (db.unreadable? table).getD (.list ((db.rows table).map .object))

/-- Replaces what a table holds. A list of objects is rows. -/
def put (db : Database) (table : String) (contents : Value) : Database :=
  match contents.rows? with
  | some rows =>
    { db.setRows table rows with unreadable := db.unreadable.erase table }
  | none =>
    { db with
      tables := db.tables.filter (·.1 != table)
      unreadable := db.unreadable.set table contents }

/-- A row as it is stored: it gets an identity from its place in the table unless it has one. -/
def identified (table : String) (earlier : Nat) (row : Row) : Row :=
  row.setDefault "id" (.text (table ++ "-" ++ toString (earlier + 1)))

/-- What an insert answers: the row in a list, unless something else is kept for the table. -/
def reply (db : Database) (table : String) (stored : Row) : Except CallFault Value := do
  return (← db.replies.part? table).getD (.list [.object stored])

/-- Notes a query. -/
def note (db : Database) (c : Call) : Database :=
  { db with calls := db.calls ++ [(c.table, c.kind)] }

/-- Scripts a failure, in place of an earlier one for the same table and kind. -/
def script (db : Database) (s : Script) : Database :=
  let others := db.scripts.filter fun t => !(t.table == s.table && t.word == s.word)
  { db with scripts := others ++ [s] }

/-- The tables that hold something else in a second state than in a first, as they are in the
second. -/
def changes (before after : Database) : Fields :=
  let tables := after.tables.map (·.1) ++ after.unreadable.map (·.1)
  (tables.map fun t => (t, after.contents t)).filter fun t => !(before.contents t.1).same t.2

end Database

end EditorialDesk
