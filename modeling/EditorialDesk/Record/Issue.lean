/-!
# Issues of a record

What can be wrong with the fields of a submitted record, and where. Checks collect
the issues of all fields, in the order of the fields, instead of ending at the first.
-/
namespace EditorialDesk.Record

/-- A step on the way to a part of a record. -/
inductive Step where
  | field (name : String)
  | item (index : Nat)
deriving DecidableEq, Repr

/-- What is wrong with a part of a record. -/
inductive Complaint where
  | missing
  | notText
  | notTruth
  | unreadTruth
  | notWhole
  | unreadWhole
  | oversizedWhole
  | fractional
  | notFinite
  | notMember
  | notList
  | notSet
  | notObject
  | notRecord
  | notPlainRecord
  | notMoment
  | momentRange
  | unreadMoment
deriving DecidableEq, Repr

/-- The tag under which a complaint is reported. -/
def Complaint.tag : Complaint → String
  | missing => "missing"
  | notText => "string_type"
  | notTruth => "bool_type"
  | unreadTruth => "bool_parsing"
  | notWhole => "int_type"
  | unreadWhole => "int_parsing"
  | oversizedWhole => "int_parsing_size"
  | fractional => "int_from_float"
  | notFinite => "finite_number"
  | notMember => "enum"
  | notList => "list_type"
  | notSet => "frozen_set_type"
  | notObject => "dict_type"
  | notRecord => "model_attributes_type"
  | notPlainRecord => "model_type"
  | notMoment => "datetime_type"
  | momentRange => "datetime_parsing"
  | unreadMoment => "datetime_from_date_parsing"

structure Issue where
  path : List Step
  complaint : Complaint
deriving DecidableEq, Repr

/-- The outcome of a check: what was read, or everything that is wrong. -/
inductive Checked (α : Type) where
  | accepted (a : α)
  | refused (issues : List Issue)
deriving DecidableEq, Repr

namespace Checked

/-- A single complaint about the thing itself. -/
def complain {α : Type} (c : Complaint) : Checked α := refused [⟨[], c⟩]

def map {α β : Type} (f : α → β) : Checked α → Checked β
  | accepted a => accepted (f a)
  | refused issues => refused issues

/-- Applies what the first check read to what the second read, or joins their issues. -/
def apply {α β : Type} : Checked (α → β) → Checked α → Checked β
  | accepted f, accepted a => accepted (f a)
  | accepted _, refused issues => refused issues
  | refused issues, accepted _ => refused issues
  | refused issues, refused more => refused (issues ++ more)

instance : Applicative Checked where
  pure := accepted
  map := map
  seq f a := apply f (a ())

/-- Places the issues of a check under a step. -/
def under {α : Type} (step : Step) : Checked α → Checked α
  | accepted a => accepted a
  | refused issues => refused (issues.map fun i => ⟨step :: i.path, i.complaint⟩)

/-- Checks the items of a list, numbered from `start`. -/
def items {α β : Type} (check : α → Checked β) : (start : Nat) → List α → Checked (List β)
  | _, [] => accepted []
  | start, a :: rest =>
    apply (map List.cons ((check a).under (.item start))) (items check (start + 1) rest)

end Checked
end EditorialDesk.Record
