import EditorialDesk.Text.Whole
import EditorialDesk.Value.Printer

/-!
# Stages of the editorial workflow

The closed list of stages, their numbers and names, and the reading of a stage
from whatever a column holds.
-/
namespace EditorialDesk

inductive Stage where
  | submission
  | internalReview
  | externalReview
  | editing
  | production
deriving DecidableEq, Repr

namespace Stage

/-- Every stage, in ascending order. -/
def all : List Stage := [submission, internalReview, externalReview, editing, production]

theorem mem_all (s : Stage) : s ∈ all := by cases s <;> decide

/-- The number by which tables refer to the stage. -/
def code : Stage → Int
  | submission => 1
  | internalReview => 2
  | externalReview => 3
  | editing => 4
  | production => 5

def name : Stage → String
  | submission => "SUBMISSION"
  | internalReview => "INTERNAL_REVIEW"
  | externalReview => "EXTERNAL_REVIEW"
  | editing => "EDITING"
  | production => "PRODUCTION"

def ofCode? (n : Int) : Option Stage := all.find? (·.code == n)

theorem ofCode?_code (s : Stage) : ofCode? s.code = some s := by cases s <;> rfl

/-- The stage whose number the label of a value writes, white space around it or not; null and every
other label have none. -/
def ofValue? : Value → Option Stage
  | .null => none
  | v => (Text.whole? (Text.strip v.label.toList)).bind ofCode?

/-- The given stages in order and without repeats. -/
def gather (stages : List Stage) : List Stage := all.filter stages.contains

@[simp] theorem mem_gather {s : Stage} {stages : List Stage} : s ∈ gather stages ↔ s ∈ stages := by
  simp [gather, mem_all]

/-- Gathering looks at membership only. -/
theorem gather_congr {xs ys : List Stage} (h : ∀ s, s ∈ xs ↔ s ∈ ys) : gather xs = gather ys := by
  refine List.filter_congr fun s _ => ?_
  rw [Bool.eq_iff_iff, List.contains_iff_mem, List.contains_iff_mem]
  exact h s

/-- The stage at which new submissions come in. -/
def intake : Stage := submission

end Stage
end EditorialDesk
