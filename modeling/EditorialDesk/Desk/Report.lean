import EditorialDesk.Desk.Operation

/-!
# Reports

Replies as values, and what an operation left behind: the queries it made, the tables
it changed and what it added to the store in memory.
-/
namespace EditorialDesk

namespace Intake

def Candidate.toValue (c : Candidate) : Value := .list [.text c.group.id, c.userId]

def Outcome.toValue (o : Outcome) : Value :=
  .object [("created", .list (o.created.map (·.toValue))),
    ("notify_user_ids", .ofTexts o.notifyUserIds),
    ("notifications", .list (o.notifications.map (·.toValue))), ("escalated", .bool o.escalated)]

def Finalized.toValue (f : Finalized) : Value :=
  .object [("submission", f.submission.toValue), ("outcome", f.outcome.toValue),
    ("newly_submitted", .bool f.newlySubmitted)]

end Intake

/-- A value that may be missing. -/
def Value.ofOption {α : Type} (write : α → Value) : Option α → Value
  | some a => write a
  | none => .null

/-- The entry as a value; one that nests too deep is a bad value. -/
def LogEntry.report (e : LogEntry) : Except Fault Value := Fault.needed e.shown?

def Reply.report : Reply → Except Fault Value
  | nothing => .ok .null
  | groups gs => .ok (.list (gs.map (·.toValue)))
  | group g => .ok (.ofOption UserGroup.toValue g)
  | users ids => .ok (.list ids)
  | assignments as => .ok (.list (as.map (·.toValue)))
  | enrolled a => .ok (.ofOption StageAssignment.toValue a)
  | row r => .ok (r.getD .null)
  | count n => .ok (.int n)
  | entry e => e.report
  | candidates cs => .ok (.list (cs.map (·.toValue)))
  | outcome o => .ok o.toValue
  | finalized f => .ok f.toValue

namespace Database

/-- The queries that the second state has made since the first, as table and kind. -/
def callsSince (before after : Database) : List String :=
  (after.calls.drop before.calls.length).map fun c => c.1 ++ "." ++ c.2.word

/-- The tables that differ from the first state, with all that they hold. -/
def changesSince (before after : Database) : Value := .object (changes before after)

end Database

namespace Store

def attemptValue (e : Enrollment) : Value :=
  .list [e.submissionId, e.groupId, e.userId, e.recommendOnly]

def Withdrawal.toValue (w : Withdrawal) : Value :=
  .list [.ofTexts (w.types.map (·.word)), .text w.targetType.word, w.targetId]

/-- A list with what was added to it, unless nothing was. -/
def additions (name : String) : List Value → Fields
  | [] => []
  | added => [(name, .list added)]

/-- What was added to the store in memory, list by list; lists without additions are left out. -/
def Memory.additionsSince (before after : Memory) : Except Fault Value := do
  let events ← (after.events.drop before.events.length).mapM LogEntry.report
  return .object <|
    additions "assignments"
        ((after.assignments.drop before.assignments.length).map StageAssignment.toValue) ++
      additions "create_calls" ((after.attempts.drop before.attempts.length).map attemptValue) ++
      additions "emitted"
        ((after.emitted.drop before.emitted.length).map fun n => .object n.fields) ++
      additions "cleared"
        ((after.withdrawn.drop before.withdrawn.length).map Withdrawal.toValue) ++
      additions "events" events

end Store
end EditorialDesk
