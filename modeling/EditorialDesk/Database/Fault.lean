import EditorialDesk.Calendar.Zone
import EditorialDesk.Database.Error
import EditorialDesk.Record.Issue

/-!
# Faults and readings

The causes by which an operation can end without a result.
-/
namespace EditorialDesk

inductive Fault where
  /-- A record with issues. -/
  | invalid (issues : List Record.Issue)
  /-- A query that the database refused. -/
  | rejected (e : DatabaseError)
  /-- A look-up in a table that is not there. -/
  | missingTable (table : String)
  /-- A query that no database answered. -/
  | broken (message : String)
  /-- A row or a request without a field that it needs. -/
  | missingField (name : String)
  /-- A value outside its list or its grammar. -/
  | badValue
  /-- A value of a kind that is no number or no name. -/
  | badType
  /-- A value without fields in place of a row or a record. -/
  | noFields
  /-- A number or a date outside its range. -/
  | overflow
  /-- A zone that could not be looked up. -/
  | zone (fault : Calendar.ZoneFault)
deriving DecidableEq, Repr

namespace Fault

def ofCall : CallFault → Fault
  | .rejected e => rejected e
  | .broken message => broken message
  | .badType => badType
  | .noFields => noFields

/-- A failed look-up names the missing table where the error tells of one. -/
def ofLookup : CallFault → Fault
  | .rejected e =>
    match e.missingTable? with
    | some table => missingTable table
    | none => rejected e
  | f => ofCall f

/-- What is told of a missing table. -/
def missingTableMessage (table : String) : String := "workflow table missing: " ++ table

/-- The result of a check, its issues as a fault. -/
def ofChecked {α : Type} : Record.Checked α → Except Fault α
  | .accepted a => .ok a
  | .refused issues => .error (invalid issues)

/-- A moment or a date; where there is none, it has left the calendar. -/
def inCalendar {α : Type} : Option α → Except Fault α
  | some a => .ok a
  | none => .error overflow

/-- A value that can name something, or the fault of one that cannot. -/
def named (v : Value) : Except Fault Value := if v.isName then .ok v else .error badType

@[simp] theorem named_text (s : String) : named (.text s) = .ok (.text s) := rfl

/-- The value, or the fault of a bad one. -/
def needed {α : Type} : Option α → Except Fault α
  | some a => .ok a
  | none => .error badValue

end Fault

/-!
## Readings

What a clock, a calendar or a record shows when it is looked at. One that shows nothing,
or nothing that could be read, is a fault only once it is looked at.
-/

inductive Reading (α : Type) where
  | shows (a : α)
  | fails (fault : Fault)
deriving DecidableEq, Repr

namespace Reading

variable {α : Type}

/-- Looks at it. -/
def look : Reading α → Except Fault α
  | shows a => .ok a
  | fails fault => .error fault

/-- The reading that is such a result when it is looked at. -/
def ofExcept : Except Fault α → Reading α
  | .ok a => shows a
  | .error fault => fails fault

end Reading
end EditorialDesk
