import EditorialDesk.Proofs.Database.Firm
import EditorialDesk.Proofs.Database.Scope
import EditorialDesk.Proofs.Store.Notices
import EditorialDesk.Store.Register

/-!
# The scope of requests

What each request of the intake may change in the database. Look-ups change nothing; an
enrolment adds an assignment at most, an entry of the log dates its submission, and a
withdrawal deletes notifications of its kinds about its target. The queries of a request
stay within its scope, whatever they are answered.
-/
namespace EditorialDesk

/-- A row of a notification of one of some kinds about a target. -/
def Fields.IsNoticeOf (types : List NotificationType) (target : TargetType) (targetId : String)
    (row : Row) : Prop :=
  (∃ type ∈ types, row.get "type" = .text type.word) ∧ row.get "assoc_type" = .text target.word ∧
    row.get "assoc_id" = .text targetId

lemma Fields.IsNoticeOf.marked {types : List NotificationType} {target : TargetType}
    {targetId : String} {row : Row} (h : row.IsNoticeOf types target targetId) : row.IsMarked := by
  obtain ⟨⟨type, -, htype⟩, htarget, htargetId⟩ := h
  exact ⟨⟨_, htype⟩, ⟨_, htarget⟩, ⟨_, htargetId⟩⟩

lemma Fields.IsNoticeOf.mono {types more : List NotificationType} {target : TargetType}
    {targetId : String} {row : Row} (h : row.IsNoticeOf types target targetId)
    (hmore : types ⊆ more) : row.IsNoticeOf more target targetId := by
  obtain ⟨⟨type, htype, hrow⟩, hrest⟩ := h
  exact ⟨⟨type, hmore htype, hrow⟩, hrest⟩

/-- Nothing but assignments and log entries may be added. -/
def Scope.narrow : Scope := ⟨fun _ => False, fun _ => False, fun _ => False⟩

section Scope

variable {x : Scope}

lemma Scope.narrow_le (x : Scope) : Scope.narrow ≤ x :=
  ⟨fun _ => False.elim, fun _ => False.elim, fun _ => False.elim⟩

lemma Scope.dates_le {P : String → Prop} (h : ∀ id, P id → x.dates id) :
    { Scope.narrow with dates := P } ≤ x :=
  ⟨h, (Scope.narrow_le x).2⟩

lemma Scope.withdraws_le {P : Row → Prop} (h : ∀ row, P row → x.withdraws row) :
    { Scope.narrow with withdraws := P } ≤ x :=
  ⟨(Scope.narrow_le x).1, h, (Scope.narrow_le x).2.2⟩

lemma Scope.sends_le {P : Row → Prop} (h : ∀ row, P row → x.sends row) :
    { Scope.narrow with sends := P } ≤ x :=
  ⟨(Scope.narrow_le x).1, (Scope.narrow_le x).2.1, h⟩

end Scope

/-- What a request may change. -/
def Request.scope : Request → Scope
  | .notify n => { Scope.narrow with
      sends := fun row => row.get "type" = .text n.type.word ∧
        row.get "assoc_type" = .text n.targetType.word ∧ row.get "assoc_id" = n.targetId }
  | .withdraw types target targetId =>
    { Scope.narrow with withdraws := Fields.IsNoticeOf types target targetId.label }
  | .log event => { Scope.narrow with dates := fun id => id = event.submissionId.label }
  | .save s => { Scope.narrow with dates := fun id => id = s.id }
  | _ => Scope.narrow

namespace Session

variable {α : Type} {P : Call → Prop}

lemma asks_attempt {c : Call} {onAnswer : c.Answer → Session α} {onFault : CallFault → Session α}
    (hc : P c) (hanswer : ∀ a, (onAnswer a).Asks P) (hfault : ∀ f, (onFault f).Asks P) :
    (attempt c onAnswer onFault).Asks P := by
  refine ⟨hc, fun r => ?_⟩
  cases r with
  | ok a => exact hanswer a
  | error f => exact hfault f

lemma asks_execute {c : Call} (hc : P c) : (execute c).Asks P :=
  asks_attempt hc (fun _ => trivial) fun _ => trivial

lemma asks_lookup {table : String} {filters : List Filter} {order : List String}
    (hc : P (.select table filters order)) : (lookup table filters order).Asks P :=
  asks_attempt hc (fun _ => trivial) fun _ => trivial

end Session

/-- A look-up in the directory. -/
abbrev Call.Consults : Call → Prop := Call.LooksInto (· ∈ Table.directory)

lemma Call.Consults.leavesAlone {c : Call} (h : c.Consults) (kept : String → Prop) :
    c.LeavesAlone kept := by
  cases c with
  | select => exact .inl rfl
  | insert | update | delete => exact h.elim

open Store in
/-- The queries by which a request changes tables are of a kind. -/
def Request.Writes (P : Call → Prop) : Request → Prop
  | .enroll e => ∀ now, P (.insert Table.stageAssignments (assignmentRow now e))
  | .notify n => ∀ now, P (.insert Table.notifications (notificationRow now n))
  | .withdraw types target targetId =>
    P (.delete Table.notifications (withdrawn types target targetId))
  | .log event => ∀ now : Calendar.Moment, P (.insert Table.eventLog (eventRow now event)) ∧
    P (.update Table.submissions [("date_last_activity", .text now.columnText)]
      [.equals "id" event.submissionId.label])
  | .save s => P (.update Table.submissions (submissionPatch s) [.equals "id" s.id])
  | _ => True

namespace Store

open Session Program

lemma lookup_consults {table : String} (h : table ∈ Table.directory) (filters : List Filter)
    (order : List String) : (lookup table filters order).Asks Call.Consults :=
  asks_lookup h

lemma grants_consults (groupIds : List String) : (grants groupIds).Asks Call.Consults := by
  unfold grants
  split
  · trivial
  · exact (lookup_consults (by decide) _ _).bind fun _ => trivial

lemma groupsAmong_consults (ids : List String) (contextId : Value) :
    (groupsAmong ids contextId).Asks Call.Consults := by
  unfold groupsAmong
  split
  · trivial
  · exact (lookup_consults (by decide) _ _).bind fun _ =>
      (grants_consults _).bind fun _ => asks_ofExcept _

lemma groupsForStage_consults (contextId : Value) (stage : Stage) :
    (groupsForStage contextId stage).Asks Call.Consults :=
  (lookup_consults (by decide) _ _).bind fun _ => groupsAmong_consults _ _

lemma groupsForUser_consults (userId contextId : Value) :
    (groupsForUser userId contextId).Asks Call.Consults :=
  (lookup_consults (by decide) _ _).bind fun _ => groupsAmong_consults _ _

lemma group?_consults (id : Value) : (group? id).Asks Call.Consults :=
  (asks_ofExcept _).bind fun _ => (groupsAmong_consults _ _).bind fun _ => trivial

lemma members_consults (groupId contextId : Value) :
    (members groupId contextId).Asks Call.Consults := by
  refine (group?_consults groupId).bind fun g => ?_
  cases g with
  | none => trivial
  | some g =>
    dsimp only
    split
    · exact (lookup_consults (by decide) _ _).bind fun _ => trivial
    · trivial

lemma subEditors_consults (grouping : Grouping) (contextId : Value) :
    (subEditors grouping contextId).Asks Call.Consults :=
  (lookup_consults (by decide) _ _).bind fun _ => trivial

lemma managers_consults (contextId : Value) : (managers contextId).Asks Call.Consults := by
  refine (lookup_consults (by decide) _ _).bind fun rows => ?_
  dsimp only
  split
  · trivial
  · exact (lookup_consults (by decide) _ _).bind fun _ => trivial

/-! ### What the register asks

Whatever is to be shown of the queries of a request, it is enough to show it of those that are
named here. -/

section Asks

variable {P : Call → Prop} {now : Calendar.Moment}

lemma assignments_asks (hselect : ∀ table filters order, P (.select table filters order))
    (q : AssignmentQuery) : (assignments q).Asks P := by
  have hlisted : ∀ filters, (selectAssignments filters).Asks P :=
    fun _ => (asks_lookup (hselect _ _ _)).bind fun _ => asks_ofExcept _
  unfold assignments
  split
  · exact hlisted _
  · refine (asks_lookup (hselect _ _ _)).bind fun rows => ?_
    dsimp only
    split
    · trivial
    · exact hlisted _

lemma enroll_asks {e : Enrollment}
    (h : P (.insert Table.stageAssignments (assignmentRow now e))) : (enroll now e).Asks P := by
  refine asks_attempt h (fun _ => asks_ofExcept _) fun f => ?_
  cases f with
  | rejected e =>
    dsimp only
    generalize e.isUniqueViolation = taken
    cases taken <;> exact True.intro
  | _ => exact True.intro

lemma notify_asks {n : Notice} (h : P (.insert Table.notifications (notificationRow now n))) :
    (notify now n).Asks P := by
  refine asks_attempt h (fun _ => asks_ofExcept _) fun f => ?_
  cases f with
  | rejected e =>
    dsimp only
    generalize e.isOrphanUser = unknown
    cases unknown <;> exact True.intro
  | _ => exact True.intro

lemma withdraw_asks {types : List NotificationType} {target : TargetType} {targetId : Value}
    (h : P (.delete Table.notifications (withdrawn types target targetId))) :
    (withdraw types target targetId).Asks P := by
  unfold withdraw
  split
  · trivial
  · exact (asks_execute h).bind fun _ => trivial

lemma log_asks {event : Event} (hentry : P (.insert Table.eventLog (eventRow now event)))
    (hdate : P (.update Table.submissions [("date_last_activity", .text now.columnText)]
      [.equals "id" event.submissionId.label])) : (log now event).Asks P :=
  (asks_execute hentry).bind fun _ => (asks_execute hdate).bind fun _ => asks_ofExcept _

lemma save_asks {s : Submission}
    (h : P (.update Table.submissions (submissionPatch s) [.equals "id" s.id])) :
    (save s).Asks P :=
  (asks_execute h).bind fun _ => trivial

lemma atClock_asks {α : Type} (clock : Reading Calendar.Moment)
    {go : Calendar.Moment → Session α} (hgo : ∀ now, (go now).Asks P) :
    (atClock clock go).Asks P :=
  (asks_ofExcept _).bind hgo

/-- The queries of a request are of a kind if look-ups are, and those that change tables. -/
theorem session_asks (clock : Reading Calendar.Moment) {q : Request}
    (hselect : ∀ table filters order, P (.select table filters order)) (hwrites : q.Writes P) :
    (session clock q).Asks P := by
  have hconsults : ∀ {α : Type} {p : Session α}, p.Asks Call.Consults → p.Asks P := by
    refine fun h => h.mono fun c hc => ?_
    cases c with
    | select => exact hselect _ _ _
    | insert | update | delete => exact hc.elim
  cases q with
  | groupsForStage contextId stage => exact hconsults (groupsForStage_consults contextId stage)
  | groupsForUser userId contextId => exact hconsults (groupsForUser_consults userId contextId)
  | group id => exact hconsults (group?_consults id)
  | members groupId contextId => exact hconsults (members_consults groupId contextId)
  | subEditors grouping contextId => exact hconsults (subEditors_consults grouping contextId)
  | managers contextId => exact hconsults (managers_consults contextId)
  | assignments query => exact assignments_asks hselect query
  | enroll e => exact atClock_asks clock fun now => enroll_asks (hwrites now)
  | notify n => exact atClock_asks clock fun now => notify_asks (hwrites now)
  | withdraw types target targetId => exact withdraw_asks hwrites
  | log event => exact atClock_asks clock fun now => log_asks (hwrites now).1 (hwrites now).2
  | save s => exact save_asks hwrites

end Asks

/-! ### The scope of each -/

/-- What is like a notification that a withdrawal matches is in the scope of the withdrawal. -/
lemma isNoticeOf_of_alike {types : List NotificationType} {target : TargetType} {targetId : Value}
    {row other : Row} (hrow : row.IsMarked)
    (hother : meets (withdrawn types target targetId) other = true)
    (halike : Value.alikeRows row other = true) :
    row.IsNoticeOf types target targetId.label := by
  have htext : ∀ {column s : String}, row.get column = .text s → other.label column = s := by
    intro column s hs
    rw [Fields.label, Value.get_of_alikeRows halike hs, Value.label_text]
  obtain ⟨word, htype⟩ := hrow.type
  obtain ⟨about, htarget⟩ := hrow.target
  obtain ⟨id, hid⟩ := hrow.targetId
  rw [meets_withdrawn, htext htype, htext htarget, htext hid] at hother
  obtain ⟨⟨type, hmem, rfl⟩, rfl, rfl⟩ := hother
  exact ⟨⟨type, hmem, htype⟩, htarget, hid⟩

/-- The queries of every request are within its scope. -/
theorem session_within (clock : Reading Calendar.Moment) (q : Request) :
    (session clock q).Asks (Call.IsWithin q.scope) := by
  have hsame : ∀ {row : Row} {id : String}, meets [.equals "id" id] row = true →
      row.label "id" = id := by
    intro row id hrow
    simpa using hrow
  refine session_asks clock (fun _ _ _ => trivial) ?_
  cases q with
  | enroll e => exact fun _ => .inl rfl
  | notify n => exact fun _ => .inr (.inr ⟨rfl, fun _ => ⟨rfl, rfl, rfl⟩⟩)
  | withdraw types target targetId =>
    exact ⟨rfl, fun _ _ hrow hother halike => isNoticeOf_of_alike hrow hother halike⟩
  | log event =>
    refine fun now => ⟨.inr (.inl rfl), rfl, ?_, ?_, fun _ => hsame⟩
    · simp
    · simp [Table.datedColumns]
  | save s =>
    refine ⟨rfl, ?_, ?_, fun _ => hsame⟩
    · simp [submissionPatch]
    · simp [submissionPatch, Table.datedColumns]
  | _ => trivial

end Store
end EditorialDesk
