import EditorialDesk.Database.Error

/-!
# Queries and the order of rows

The four kinds of query on tables, and the conditions that single rows out. Columns are
compared by their labels, so that a number matches the text of its digits and a missing
column matches null.
-/
namespace EditorialDesk

/-- A row of a table: its columns with their values. -/
abbrev Row := Fields

/-- The label of a column, that of null where the column is missing. -/
def Fields.label (row : Row) (column : String) : String := (row.get column).label

/-- The label of a column, empty where its value counts as absent. -/
def Fields.labelOrEmpty (row : Row) (column : String) : String := (row.get column).labelOrEmpty

/-- A condition on a row. -/
inductive Filter where
  | equals (column wanted : String)
  | among (column : String) (wanted : List String)
deriving DecidableEq, Repr

def Filter.admits : Filter → Row → Bool
  | equals column wanted, row => row.label column == wanted
  | among column wanted, row => wanted.contains (row.label column)

/-- Whether a row meets all conditions. -/
def meets (filters : List Filter) (row : Row) : Bool := filters.all (·.admits row)

/-- The kinds of query. -/
inductive QueryKind where
  | select
  | insert
  | update
  | delete
deriving DecidableEq, Repr

namespace QueryKind

def word : QueryKind → String
  | select => "select"
  | insert => "insert"
  | update => "update"
  | delete => "delete"

end QueryKind

/-- One query of the database. -/
inductive Call where
  | select (table : String) (filters : List Filter) (order : List String)
  | insert (table : String) (row : Row)
  | update (table : String) (patch : Row) (filters : List Filter)
  | delete (table : String) (filters : List Filter)
deriving DecidableEq, Repr

def Call.table : Call → String
  | select t .. | insert t _ | update t .. | delete t _ => t

def Call.kind : Call → QueryKind
  | select .. => .select
  | insert .. => .insert
  | update .. => .update
  | delete .. => .delete

/-- What answers a query: rows, or whatever an insert is told to answer. -/
@[reducible]
def Call.Answer : Call → Type
  | insert .. => Value
  | select .. | update .. | delete .. => List Row

end EditorialDesk

/-!
## The order of rows

Rows are ordered by the labels of some columns, text by text. Rows alike in all of them
keep their order, and no row is lost.
-/
namespace EditorialDesk.Database

/-- The text by which rows are ordered: one label for each column of the order. -/
def sortKey (order : List String) (row : Row) : List String := order.map row.labelOrEmpty

/-- Whether a list of texts comes before another or is equal to it: the first texts that differ
decide, by code points. -/
def notAfter : (a b : List String) → Bool
  | [], _ => true
  | _ :: _, [] => false
  | x :: xs, y :: ys => if x == y then notAfter xs ys else x < y

/-- Puts a row in front of the first row that is not before it. -/
def place (order : List String) (row : Row) : List Row → List Row
  | [] => [row]
  | r :: rest =>
    if notAfter (sortKey order row) (sortKey order r) then row :: r :: rest
    else r :: place order row rest

/-- Orders rows by some columns; rows alike in these keep their order. -/
def arrange (order : List String) (rows : List Row) : List Row := rows.foldr (place order) []

theorem place_perm (order : List String) (row : Row) (rows : List Row) :
    (place order row rows).Perm (row :: rows) := by
  induction rows with
  | nil => exact List.Perm.refl _
  | cons r rest ih =>
    simp only [place]
    split
    · exact List.Perm.refl _
    · exact (ih.cons r).trans (List.Perm.swap row r rest)

theorem arrange_perm (order : List String) (rows : List Row) : (arrange order rows).Perm rows := by
  induction rows with
  | nil => exact List.Perm.refl _
  | cons r rest ih => exact (place_perm order r (arrange order rest)).trans (ih.cons r)

end EditorialDesk.Database
