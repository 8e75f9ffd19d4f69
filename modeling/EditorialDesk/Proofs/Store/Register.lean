import EditorialDesk.Proofs.Calendar.Column
import EditorialDesk.Proofs.Database.Admission
import EditorialDesk.Proofs.Store.Directory

/-!
# What the register writes

Each session of the register as a contract: the deeds that it leaves, what it answers,
and what then holds of the table of assignments. The contracts hold wherever queries of
the intake come in between the queries of a session.
-/
namespace EditorialDesk

open Database

lemma Session.meets_attempt {α : Type} {c : Call} {onAnswer : c.Answer → Session α}
    {onFault : CallFault → Session α} {s : Database} {post : α → List Deed → Database → Prop}
    (hc : c.IsOfIntake)
    (h : ∀ mid, Later s mid →
      Program.Meets overlapping
        (match (mid.perform c).1 with
          | .ok answer => onAnswer answer
          | .error fault => onFault fault)
        (mid.perform c).2 fun a ds t => post a (mid.deeds c ++ ds) t) :
    (attempt c onAnswer onFault).Meets overlapping s post := by
  refine ⟨hc, fun r ds s' ⟨mid, hmid, hr, hds, hs'⟩ => ?_⟩
  subst hr hds hs'
  have hmeets := h mid hmid
  cases hanswer : (mid.perform c).1 with
  | ok answer =>
    rw [hanswer] at hmeets
    exact hmeets
  | error fault =>
    rw [hanswer] at hmeets
    exact hmeets

/-- The conditions by which notifications of some kinds about a target are withdrawn. -/
def Store.withdrawn (types : List NotificationType) (target : TargetType) (targetId : Value) :
    List Filter :=
  [.among "type" (types.map (·.word)), .equals "assoc_type" target.word,
    .equals "assoc_id" targetId.label]

/-- The change by which a log entry dates its submission. -/
def Store.dated (now : Calendar.Moment) : Row := [("date_last_activity", .text now.columnText)]

namespace Deed

/-- An enrolment, and its place in the table if the seat was free. -/
def enrolls (now : Calendar.Moment) (e : Enrollment) (place : Option Nat) : Deed where
  call := .insert Table.stageAssignments (Store.assignmentRow now e)
  stored := place.map (identified Table.stageAssignments · (Store.assignmentRow now e))

/-- A notification, and its place in the table if it was stored. -/
def notifies (now : Calendar.Moment) (n : Notice) (place : Option Nat) : Deed where
  call := .insert Table.notifications (Store.notificationRow now n)
  stored := place.map (identified Table.notifications · (Store.notificationRow now n))

def withdraws (types : List NotificationType) (target : TargetType) (targetId : Value) : Deed where
  call := .delete Table.notifications (Store.withdrawn types target targetId)
  stored := none

/-- An entry in the log, in its place, and the date of the submission. -/
def logs (now : Calendar.Moment) (e : Event) (place : Nat) : List Deed :=
  [⟨.insert Table.eventLog (Store.eventRow now e),
      some (identified Table.eventLog place (Store.eventRow now e))⟩,
    ⟨.update Table.submissions (Store.dated now) [.equals "id" e.submissionId.label], none⟩]

def saves (x : Submission) : Deed where
  call := .update Table.submissions (Store.submissionPatch x) [.equals "id" x.id]
  stored := none

end Deed

namespace Store

variable {s : Database} {now : Calendar.Moment}

/-- The assignment that is read from the row of an enrolment in its place of the table. -/
def assignmentAt (now : Calendar.Moment) (e : Enrollment) (place : Nat) : StageAssignment where
  id := some (Table.stageAssignments ++ "-" ++ toString (place + 1))
  seat := ⟨e.submissionId.label, e.groupId.label, e.userId.label⟩
  recommendOnly := e.recommendOnly.isPresent
  dateAssigned := some now

/-- The labels of the seat that an enrolment is for. -/
def seatOf (e : Enrollment) : List String :=
  [e.submissionId.label, e.groupId.label, e.userId.label]

lemma firstPart_of_absent {v : Value} (h : v.isPresent = false) : firstPart v = .ok none := by
  cases v with
  | list items =>
    have hitems : items = [] := by simpa [Value.isPresent] using h
    rw [hitems]
    rfl
  | text s =>
    have hs : s = "" := by simpa [Value.isPresent] using h
    rw [hs]
    rfl
  | _ => simp only [firstPart, h, Bool.not_false, if_true]

lemma firstRow_of_absent {v : Value} (h : v.isPresent = false) : firstRow v = .ok none := by
  rw [firstRow, firstPart_of_absent h]
  rfl

/-- The row of an enrolment is read back as its assignment, whatever else the row says. -/
lemma assignmentOf_append (hnow : now.offset = some .utc) (e : Enrollment) (more : Row) :
    assignmentOf (assignmentRow now e ++ more) =
      .ok ⟨labelUnlessNull (more.get "id"),
        ⟨e.submissionId.label, e.groupId.label, e.userId.label⟩,
        e.recommendOnly.isPresent, some now⟩ := by
  have hmoment : Record.moment (.text now.columnText) = .accepted now := by
    simp only [Record.moment, Calendar.readMoment_columnText hnow]
  have hdate : assignedDate (assignmentRow now e ++ more) = .accepted (some now) := by
    change (Record.orNull Record.moment (.text now.columnText)).under _ = _
    simp only [Record.orNull, hmoment, Record.Checked.map, Record.Checked.under]
  unfold assignmentOf
  rw [hdate]
  rfl

lemma assignmentOf_identified (hnow : now.offset = some .utc) (e : Enrollment) (place : Nat) :
    assignmentOf (identified Table.stageAssignments place (assignmentRow now e)) =
      .ok (assignmentAt now e place) :=
  assignmentOf_append hnow e _

/-- What an enrolment makes of an answer: the assignment of the row that came back, or else of the
row that was to be stored. -/
def enrolled (now : Calendar.Moment) (e : Enrollment) (answer : Value) :
    Except Fault (Option StageAssignment) := do
  return some (← assignmentOf ((← firstRow answer).getD (assignmentRow now e)))

lemma enrolled_row (hnow : now.offset = some .utc) (e : Enrollment) (place : Nat) :
    enrolled now e (.list [.object (identified Table.stageAssignments place
      (assignmentRow now e))]) = .ok (some (assignmentAt now e place)) := by
  simp only [enrolled, firstRow, firstPart, List.head?_cons, bind, Except.bind, pure, Except.pure,
    Option.getD_some, assignmentOf_identified hnow]

lemma enrolled_absent (hnow : now.offset = some .utc) (e : Enrollment) (place : Nat) {v : Value}
    (hv : v.isPresent = false) :
    enrolled now e v = .ok (some { assignmentAt now e place with id := none }) := by
  have hread := assignmentOf_append hnow e []
  rw [List.append_nil] at hread
  simp only [enrolled, firstRow_of_absent hv, bind, Except.bind, pure, Except.pure,
    Option.getD_none, hread]
  rfl

lemma isAssignment_identified (hnow : now.offset = some .utc) (e : Enrollment) (place : Nat) :
    Fields.IsAssignment (identified Table.stageAssignments place (assignmentRow now e)) :=
  ⟨_, assignmentOf_identified hnow e place⟩

/-- What an insert answers, leaves and counts as: it is refused, or stores its row. -/
lemma insert_cases {mid : Database} (hmid : mid.Plain) {table : String} {row : Row}
    (hrow : IsNamed (.insert table row)) :
    (refuses mid.orphans (mid.rows table) table row = true ∧
      (mid.perform (.insert table row)).1 = .error (.rejected (refusal table)) ∧
      mid.deeds (.insert table row) = [⟨.insert table row, none⟩]) ∨
    (refuses mid.orphans (mid.rows table) table row = false ∧
      (mid.perform (.insert table row)).1 =
        .ok (.list [.object (identified table (mid.rows table).length row)]) ∧
      mid.deeds (.insert table row) =
        [⟨.insert table row, some (identified table (mid.rows table).length row)⟩]) := by
  have hdeeds : mid.deeds (.insert table row) =
      [⟨.insert table row, storedBy (.insert table row) (mid.perform (.insert table row)).1⟩] := rfl
  rw [hdeeds, hmid.perform_insert hrow]
  cases hr : refuses mid.orphans (mid.rows table) table row with
  | true => exact .inl ⟨rfl, rfl, rfl⟩
  | false => exact .inr ⟨rfl, rfl, rfl⟩

/-- Whether a seat is taken is all that stands in the way of an assignment. -/
lemma violation?_assignment {db : Database} (hunique : db.unique = true)
    (hrows : db.unreadable? Table.stageAssignments = none) (now : Calendar.Moment)
    (e : Enrollment) : db.violation? Table.stageAssignments (assignmentRow now e) =
      .ok (if seatOf e ∈ seats (db.rows Table.stageAssignments) then some seatTaken else none) := by
  have hany : (db.rows Table.stageAssignments).any
      (seatLabels · == seatLabels (assignmentRow now e)) =
        decide (seatOf e ∈ seats (db.rows Table.stageAssignments)) := by
    rw [Bool.eq_iff_iff, List.any_eq_true, decide_eq_true_iff, seats, List.mem_map]
    simp only [beq_iff_eq]
    rfl
  simp only [violation?, hunique, takesSeat, hrows, hany, beq_self_eq_true,
    Bool.and_self, if_true, bind, Except.bind, pure, Except.pure, decide_eq_true_eq]

/-- An enrolment takes the seat or finds it taken; it answers the assignment that it stored. -/
theorem enroll_meets (hs : s.Plain) (hnow : now.offset = some .utc) (e : Enrollment) :
    (enroll now e).Meets overlapping s fun r ds t => Later s t ∧
      ∃ place : Option Nat, r = place.map (assignmentAt now e) ∧
        ds = [.enrolls now e place] ∧
        (place ≠ none → seatOf e ∉ seats (s.rows Table.stageAssignments)) ∧
        seatOf e ∈ seats (t.rows Table.stageAssignments) := by
  have hc : (Call.insert Table.stageAssignments (assignmentRow now e)).IsOfIntake :=
    .inl ⟨rfl, isAssignment_identified hnow e⟩
  refine Session.meets_attempt hc fun mid hmid => ?_
  have hplain := hmid.plain hs
  have hlater := hmid.trans (hplain.later_perform hc)
  have htaken : seatOf e ∈ seats
      ((mid.perform (.insert Table.stageAssignments (assignmentRow now e))).2.rows
        Table.stageAssignments) := by
    rw [hplain.rows_perform hc.isNamed]
    simp only [Call.table, if_true, effect_insert_assignment]
    exact mem_seats_enterOne.2 (.inr rfl)
  rcases insert_cases hplain hc.isNamed with ⟨-, hanswer, hdeeds⟩ | ⟨hr, hanswer, hdeeds⟩
  · rw [hanswer, hdeeds]
    simp only [refusal, beq_self_eq_true, if_true, isUniqueViolation_seatTaken]
    exact ⟨hlater, none, rfl, rfl, fun h => absurd rfl h, htaken⟩
  · have hfree : seatOf e ∉ seats (s.rows Table.stageAssignments) := by
      intro hmem
      obtain ⟨row, hrow, hseat⟩ := List.mem_map.1 (seats_subset hmid.assignments hmem)
      have hany : (mid.rows Table.stageAssignments).any
          (seatLabels · == seatLabels (assignmentRow now e)) = true :=
        List.any_eq_true.2 ⟨row, hrow, beq_iff_eq.2 hseat⟩
      unfold refuses at hr
      rw [hany] at hr
      simp at hr
    rw [hanswer, hdeeds]
    simp only [firstRow, firstPart, List.head?_cons, bind, Except.bind, pure, Except.pure,
      Option.getD_some, assignmentOf_identified hnow]
    exact ⟨hlater, some _, rfl, rfl, fun _ => hfree, htaken⟩

theorem notify_meets (hs : s.Plain) {n : Notice} (hn : n.userId.isName = true) :
    (notify now n).Meets overlapping s fun _ ds t => Later s t ∧
      ∃ place : Option Nat,
        ds = [.notifies now n place] ∧
        (place = none ↔ s.orphans.any (·.alike n.userId) = true) := by
  have hc : (Call.insert Table.notifications (notificationRow now n)).IsOfIntake :=
    .inr (.inl ⟨rfl, hn⟩)
  refine Session.meets_attempt hc fun mid hmid => ?_
  have hplain := hmid.plain hs
  have hlater := hmid.trans (hplain.later_perform hc)
  have horphan : refuses mid.orphans (mid.rows Table.notifications) Table.notifications
      (notificationRow now n) = s.orphans.any (·.alike n.userId) := by
    have huser : Fields.get (notificationRow now n) "user_id" = n.userId := rfl
    have hne : (Table.notifications == Table.stageAssignments) = false := by decide
    simp [refuses, hne, huser, hmid.orphans]
  rcases insert_cases hplain hc.isNamed with ⟨hr, hanswer, hdeeds⟩ | ⟨hr, hanswer, hdeeds⟩
  · rw [hanswer, hdeeds]
    have hrefusal : refusal Table.notifications = unknownUser := rfl
    simp only [hrefusal, isOrphanUser_unknownUser, if_true]
    exact ⟨hlater, none, rfl, by simp [← horphan, hr]⟩
  · rw [hanswer, hdeeds]
    exact ⟨hlater, some _, rfl, by simp [← horphan, hr]⟩

theorem withdraw_meets (hs : s.Plain) {types : List NotificationType} (htypes : types ≠ [])
    (target : TargetType) (targetId : Value) :
    (withdraw types target targetId).Meets overlapping s fun _ ds t => Later s t ∧
      ds = [.withdraws types target targetId] := by
  have hempty : types.isEmpty = false := by simpa using htypes
  unfold withdraw
  simp only [hempty, Bool.false_eq_true, if_false, Session.execute]
  rw [Program.meets_bind]
  refine Session.meets_attempt (show Call.IsOfIntake _ from rfl) fun mid hmid => ?_
  have hplain := hmid.plain hs
  have hlater := hmid.trans (hplain.later_perform (show Call.IsOfIntake (.delete
    Table.notifications (withdrawn types target targetId)) from rfl))
  unfold withdrawn at hlater
  rw [hplain.perform_delete] at hlater ⊢
  refine ⟨hlater, ?_⟩
  simp [deeds, storedBy, Deed.withdraws, withdrawn]

/-- The entry of an event can be read whatever identity it gets. -/
lemma ofEvent_accepted {e : Event} (he : ∃ entry, LogEntry.ofEvent none now e = .accepted entry)
    (id : Option String) : ∃ entry, LogEntry.ofEvent id now e = .accepted entry := by
  unfold LogEntry.ofEvent at he ⊢
  cases hfields : LogEntry.ofFieldsAt (.accepted now) e.fields with
  | accepted entry => exact ⟨_, rfl⟩
  | refused issues =>
    rw [hfields] at he
    obtain ⟨entry, hentry⟩ := he
    cases hentry

/-- To date a submission leaves open whether it is finalized. -/
lemma isAdvance_dated (now : Calendar.Moment) : (dated now).IsAdvance :=
  ⟨List.nodup_singleton _, rfl, .inl ⟨rfl, rfl⟩⟩

lemma isAdvance_submissionPatch {x : Submission} {date : Calendar.Moment} (hx : x.progress = 0)
    (hdate : x.dateSubmitted = some date) : (submissionPatch x).IsAdvance := by
  have hnames : ((submissionPatch x).map (·.1)).Nodup := by
    change ["submission_progress", "date_submitted", "date_last_activity",
      "last_modified"].Nodup
    decide
  refine ⟨hnames, rfl, .inr ⟨?_, date.columnText, ?_⟩⟩
  · simp [submissionPatch, Fields.get?, hx]
  · simp [submissionPatch, Fields.get?, hdate, momentColumn]

/-- An event is entered in the log, and its submission is dated. -/
theorem log_meets (hs : s.Plain) {e : Event}
    (he : ∃ entry, LogEntry.ofEvent none now e = .accepted entry) :
    (log now e).Meets overlapping s fun _ ds t => Later s t ∧
      ∃ place : Nat, ds = Deed.logs now e place := by
  have hc : (Call.insert Table.eventLog (eventRow now e)).IsOfIntake := .inr (.inr rfl)
  have hd : (Call.update Table.submissions (dated now)
      [.equals "id" e.submissionId.label]).IsOfIntake := ⟨rfl, isAdvance_dated now⟩
  unfold log
  simp only [Session.execute]
  rw [Program.meets_bind]
  refine Session.meets_attempt hc fun mid hmid => ?_
  have hplain := hmid.plain hs
  have hlater := hmid.trans (hplain.later_perform hc)
  have hfree : refuses mid.orphans (mid.rows Table.eventLog) Table.eventLog
      (eventRow now e) = false := by
    have hne : (Table.eventLog == Table.stageAssignments) = false := by decide
    have hne' : (Table.eventLog == Table.notifications) = false := by decide
    simp [refuses, hne, hne']
  rcases insert_cases hplain hc.isNamed with ⟨hr, -, -⟩ | ⟨-, hanswer, hdeeds⟩
  · rw [hfree] at hr
    cases hr
  · rw [hanswer, hdeeds]
    simp only [Program.meets_done]
    rw [Program.meets_bind]
    refine Session.meets_attempt hd fun mid' hmid' => ?_
    have hplain' := (hlater.trans hmid').plain hs
    have hlater' := (hlater.trans hmid').trans (hplain'.later_perform hd)
    unfold dated at hlater'
    rw [hplain'.perform_update] at hlater' ⊢
    simp only [Program.meets_done, firstRow, firstPart, List.head?_cons, bind, Except.bind, pure,
      Except.pure]
    obtain ⟨entry, hentry⟩ := ofEvent_accepted he (labelUnlessNull (Fields.get
      (identified Table.eventLog (mid.rows Table.eventLog).length (eventRow now e)) "id"))
    simp only [Option.bind_some, hentry, Fault.ofChecked]
    exact ⟨hlater', _, rfl⟩

/-- A submission is stored as finalized. -/
theorem save_meets (hs : s.Plain) {x : Submission} {date : Calendar.Moment}
    (hx : x.progress = 0) (hdate : x.dateSubmitted = some date) :
    (save x).Meets overlapping s fun _ ds t => Later s t ∧
      ds = [.saves x] := by
  have hc : (Call.update Table.submissions (submissionPatch x) [.equals "id" x.id]).IsOfIntake :=
    ⟨rfl, isAdvance_submissionPatch hx hdate⟩
  unfold save
  simp only [Session.execute]
  rw [Program.meets_bind]
  refine Session.meets_attempt hc fun mid hmid => ?_
  have hplain := hmid.plain hs
  have hlater := hmid.trans (hplain.later_perform hc)
  rw [hplain.perform_update] at hlater ⊢
  exact ⟨hlater, by simp [deeds, storedBy, Deed.saves]⟩

lemma seat_of_assignmentOf {row : Row} {a : StageAssignment} (h : assignmentOf row = .ok a) :
    a.seat.labels = seatLabels row := by
  have hlabel : ∀ {column label : String}, neededLabel row column = .ok label →
      row.label column = label := by
    intro column label hneeded
    unfold neededLabel at hneeded
    split at hneeded
    · next v hv =>
      cases hneeded
      simp [Fields.label, Fields.get, hv]
    · cases hneeded
  unfold assignmentOf at h
  cases hsub : neededLabel row "submission_id" with
  | error fault => simp [hsub, bind, Except.bind] at h
  | ok sub =>
    cases hgroup : neededLabel row "user_group_id" with
    | error fault => simp [hsub, hgroup, bind, Except.bind] at h
    | ok group =>
      cases huser : neededLabel row "user_id" with
      | error fault => simp [hsub, hgroup, huser, bind, Except.bind] at h
      | ok user =>
        cases hdate : Fault.ofChecked (assignedDate row) with
        | error fault => simp [hsub, hgroup, huser, hdate, bind, Except.bind] at h
        | ok date =>
          simp only [hsub, hgroup, huser, hdate, bind, Except.bind, pure, Except.pure,
            Except.ok.injEq] at h
          subst h
          simp [Seat.labels, seatLabels, hlabel hsub, hlabel hgroup, hlabel huser]

/-- The assignments that are found are of the submission, and their seats are taken. -/
theorem assignments_meets (hs : s.Sound) {q : AssignmentQuery} (hq : q.stage = none) :
    (assignments q).Meets overlapping s fun r ds t => Later s t ∧ ds = [] ∧
      ∀ a ∈ r, a.seat.labels ∈ seats (t.rows Table.stageAssignments) ∧
        a.seat.submissionId = q.submissionId.label := by
  unfold assignments
  rw [hq]
  simp only [selectAssignments, Session.lookup]
  rw [Program.meets_bind]
  refine Session.meets_attempt (show Call.IsOfIntake _ from trivial) fun mid hmid => ?_
  have hsound := hmid.sound hs
  rw [hsound.perform_select]
  simp only [Program.meets_done]
  rw [mapM_eq_ok fun row hrow => hsound.assignments row (mem_found.1 hrow).1]
  refine ⟨hmid.trans (later_note _ _), rfl, fun a ha => ?_⟩
  obtain ⟨row, hrow, hread⟩ := List.mem_filterMap.1 ha
  obtain ⟨hmem, hmeets⟩ := mem_found.1 hrow
  obtain ⟨b, hb⟩ := hsound.assignments row hmem
  rw [hb] at hread
  obtain rfl : b = a := by simpa [Except.toOption] using hread
  have hseat := seat_of_assignmentOf hb
  refine ⟨hseat ▸ List.mem_map.2 ⟨row, hmem, rfl⟩, ?_⟩
  have hsub : row.label "submission_id" = q.submissionId.label := by
    simp only [assignmentFilters, meets_cons, admits_equals] at hmeets
    exact hmeets.1
  rw [← hsub]
  exact (List.cons.inj hseat).1

end Store
end EditorialDesk
