import EditorialDesk.Database.Fault
import EditorialDesk.Notification
import EditorialDesk.Program
import EditorialDesk.Submission
import EditorialDesk.UserGroup
import EditorialDesk.Value.Basic

/-!
# Requests of the intake

What the intake of a submission asks of its collaborators: the directory of users,
the register of stage assignments, the notifications, the event log and the table
of submissions. A plan is a program of such requests; it knows no store.
-/
namespace EditorialDesk

/-!
## First occurrences

A list without its repeats, each item at the place of its first occurrence. Names may
be any values that can name something; those that are alike name the same.
-/

/-- Keeps the first of all items that are the same. -/
def distinctBy {α : Type} (same : α → α → Bool) : List α → List α
  | [] => []
  | a :: rest => a :: (distinctBy same rest).filter fun b => !same a b

/-- Keeps the first occurrence of each text. -/
def distinct (xs : List String) : List String := distinctBy (· == ·) xs

/-- Keeps the first occurrence of each name; what cannot name anything is a fault. -/
def distinctNames (names : List Value) : Except Fault (List Value) := do
  let names ← names.mapM Fault.named
  return distinctBy Value.alike names

@[simp] theorem mem_distinct {s : String} {xs : List String} : s ∈ distinct xs ↔ s ∈ xs := by
  induction xs with
  | nil => rfl
  | cons x rest ih =>
    simp only [distinct, distinctBy, List.mem_cons, List.mem_filter] at ih ⊢
    by_cases h : s = x
    · simp [h]
    · simp [h, ih, Ne.symm h]

theorem nodup_distinct (xs : List String) : (distinct xs).Nodup := by
  induction xs with
  | nil => exact List.nodup_nil
  | cons x rest ih =>
    refine List.nodup_cons.2 ⟨?_, ih.filter _⟩
    simp

/-- Among texts, the names that are kept are the texts that are kept. -/
theorem distinctBy_alike_text (xs : List String) :
    distinctBy Value.alike (xs.map .text) = (distinct xs).map .text := by
  induction xs with
  | nil => rfl
  | cons x rest ih =>
    simp only [List.map_cons, distinctBy, distinct] at ih ⊢
    rw [ih, List.filter_map]
    simp [Function.comp_def]

/-! ## Requests of the intake -/

/-- What sub-editors are bound to. -/
inductive GroupingType where
  | journalSection
  | category
deriving DecidableEq, Repr

namespace GroupingType

def all : List GroupingType := [journalSection, category]

def word : GroupingType → String
  | journalSection => "section"
  | category => "category"

def name : GroupingType → String
  | journalSection => "SECTION"
  | category => "CATEGORY"

def ofWord? (w : String) : Option GroupingType := all.find? (·.word == w)

theorem ofWord?_word (t : GroupingType) : ofWord? t.word = some t := by cases t <;> decide

end GroupingType

/-- A section or a category. -/
structure Grouping where
  type : GroupingType
  id : Value
deriving DecidableEq, Repr

/-- Which stage assignments of a submission are asked for; an empty part asks for all. -/
structure AssignmentQuery where
  submissionId : Value
  stage : Option Stage
  groupId : Option Value
  userId : Option Value
deriving DecidableEq, Repr

/-- A request. Callers may name users, groups, contexts and submissions by any values. -/
inductive Request where
  | groupsForStage (contextId : Value) (stage : Stage)
  | groupsForUser (userId contextId : Value)
  | group (id : Value)
  | members (groupId contextId : Value)
  | subEditors (grouping : Grouping) (contextId : Value)
  | managers (contextId : Value)
  | assignments (query : AssignmentQuery)
  | enroll (enrollment : Enrollment)
  | notify (notice : Notice)
  | withdraw (types : List NotificationType) (target : TargetType) (targetId : Value)
  | log (event : Event)
  | save (submission : Submission)
deriving DecidableEq, Repr

namespace Request

/-- What answers a request. An enrolment answers nothing if the seat is taken, and a notification
nothing if nothing is known of its row. -/
@[reducible]
def Answer : Request → Type
  | groupsForStage .. | groupsForUser .. => List UserGroup
  | group _ => Option UserGroup
  | members .. | subEditors .. | managers _ => List Value
  | assignments _ => List StageAssignment
  | enroll _ => Option StageAssignment
  | notify _ => Option Value
  | withdraw .. => Nat
  | log _ => LogEntry
  | save _ => Unit

end Request

/-- A program of requests to the collaborators. -/
abbrev Plan (α : Type) : Type := Program Request Request.Answer Fault α

namespace Plan

def groupsForStage (contextId : Value) (stage : Stage) : Plan (List UserGroup) :=
  Program.request (Request.groupsForStage contextId stage)

def groupsForUser (userId contextId : Value) : Plan (List UserGroup) :=
  Program.request (Request.groupsForUser userId contextId)

def group? (id : Value) : Plan (Option UserGroup) := Program.request (Request.group id)

def members (groupId contextId : Value) : Plan (List Value) :=
  Program.request (Request.members groupId contextId)

def subEditors (grouping : Grouping) (contextId : Value) : Plan (List Value) :=
  Program.request (Request.subEditors grouping contextId)

def managers (contextId : Value) : Plan (List Value) :=
  Program.request (Request.managers contextId)

def assignments (query : AssignmentQuery) : Plan (List StageAssignment) :=
  Program.request (Request.assignments query)

def enroll? (enrollment : Enrollment) : Plan (Option StageAssignment) :=
  Program.request (Request.enroll enrollment)

def notify (notice : Notice) : Plan (Option Value) := Program.request (Request.notify notice)

def withdraw (types : List NotificationType) (target : TargetType) (targetId : Value) : Plan Nat :=
  Program.request (Request.withdraw types target targetId)

def log (event : Event) : Plan LogEntry := Program.request (Request.log event)

def save (submission : Submission) : Plan Unit := Program.request (Request.save submission)

end Plan
end EditorialDesk
