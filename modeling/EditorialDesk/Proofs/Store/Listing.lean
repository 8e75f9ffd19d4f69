import EditorialDesk.Intake.Routine
import EditorialDesk.Proofs.Calendar.Order
import EditorialDesk.Proofs.Database.Lookup
import EditorialDesk.Proofs.Store.Mirror
import EditorialDesk.Proofs.Store.ReadBack
import Mathlib.Data.List.ReduceOption

/-!
# Enrolments in the order in which they were made

Each enrolment that has a result adds one row, or none if its seat was taken. Where the
clock shows a later moment in UTC each time, the rows stand in the order of their dates
already, so that no identity is compared with another, and look-ups list them as they
were made. The submitter is carried over from them in this order.
-/
namespace EditorialDesk

open Database

/-- Whether a query that asks for no stage asks for an assignment. -/
def AssignmentQuery.admits (q : AssignmentQuery) (a : StageAssignment) : Bool :=
  a.seat.submissionId == q.submissionId.label && q.groupId.all (a.seat.groupId == ·.label) &&
    q.userId.all (a.seat.userId == ·.label)

/-- One assignment is from an earlier moment than another. -/
def StageAssignment.Precedes (a b : StageAssignment) : Prop :=
  ∃ m m' : Calendar.Moment, a.dateAssigned = some m ∧ b.dateAssigned = some m' ∧ m.ticks < m'.ticks

/-- An enrolment, and what the clock shows when it is made. -/
structure DatedEnrollment where
  moment : Calendar.Moment
  enrollment : Enrollment

namespace Store

variable {db db' : Database} {now : Calendar.Moment} {e : Enrollment}
variable {calls : List DatedEnrollment} {answers : List (Option StageAssignment)}

/-- Enrolments, one after the other. -/
def enrollAll (calls : List DatedEnrollment) : Session (List (Option StageAssignment)) :=
  calls.mapM fun c => session (.shows c.moment) (.enroll c.enrollment)

/-- The enrolments that were answered with an assignment. -/
def taken (calls : List DatedEnrollment) (answers : List (Option StageAssignment)) :
    List DatedEnrollment :=
  ((calls.zip answers).filter (·.2.isSome)).map (·.1)

/-- The rows of enrolments in a table that has so many rows already. -/
def rowsFrom (place : Nat) (calls : List DatedEnrollment) : List Row :=
  (calls.zipIdx place).map fun c =>
    identified Table.stageAssignments c.2 (assignmentRow c.1.moment c.1.enrollment)

/-- The assignments that are read from these rows. -/
def assignmentsFrom (place : Nat) (calls : List DatedEnrollment) : List StageAssignment :=
  (calls.zipIdx place).map fun c => assignmentAt c.1.moment c.1.enrollment c.2

lemma enrolled_eq_ok {answer : Value} {r : Option StageAssignment}
    (h : enrolled now e answer = .ok r) : ∃ a, r = some a := by
  unfold enrolled at h
  rcases hrow : firstRow answer with f | row <;> rw [hrow] at h
  · cases h
  · rcases hread : assignmentOf (row.getD (assignmentRow now e)) with f | a
    · simp [bind, Except.bind, hread] at h
    · simp only [bind, Except.bind, hread, pure, Except.pure, Except.ok.injEq] at h
      exact ⟨a, h.symm⟩

/-- What is answered in place of rows can only be of a wrong type. -/
lemma eq_badType_of_reply {table : String} {stored : Row} {f : CallFault}
    (h : db.reply table stored = .error f) : f = .badType := by
  rcases reply_cases db table with hreply | ⟨v, hreply⟩ | hreply <;> rw [hreply] at h <;> cases h
  rfl

/-- An enrolment with a result adds its row and answers an assignment, the one of the row if the
database answers what it stored, or it adds and answers none. -/
lemma enroll_leaves (h : db.Legible Table.stageAssignments) (hnow : now.offset = some .utc)
    {r : Option StageAssignment}
    (hrun : Session.run (session (.shows now) (.enroll e)) db = (.ok r, db')) :
    db'.Legible Table.stageAssignments ∧ db'.replies = db.replies ∧
      ((∃ a, r = some a ∧
          (db.Echoes Table.stageAssignments →
            a = assignmentAt now e (db.rows Table.stageAssignments).length) ∧
          db'.rows Table.stageAssignments = db.rows Table.stageAssignments ++
            [identified Table.stageAssignments (db.rows Table.stageAssignments).length
              (assignmentRow now e)]) ∨
        r = none ∧ db'.rows Table.stageAssignments = db.rows Table.stageAssignments) := by
  obtain ⟨hlegible, hreplies, hcases⟩ := h.insert_cases (assignmentRow now e)
  rcases Session.run_attempt_eq_ok.1 hrun with ⟨answer, hanswer, hrest⟩ | ⟨f, hf, hrest⟩
  · obtain ⟨henrolled, rfl⟩ := Session.run_ofExcept_eq_ok.1 hrest
    rcases hcases with ⟨hreply, hrows⟩ | ⟨⟨f, hf⟩, -⟩
    · obtain ⟨a, rfl⟩ := enrolled_eq_ok henrolled
      refine ⟨hlegible, hreplies, .inl ⟨a, rfl, fun hecho => ?_, hrows⟩⟩
      rw [hecho.reply_eq, hanswer] at hreply
      rw [Except.ok.inj hreply] at henrolled
      have hstored := henrolled.symm.trans (enrolled_row hnow e _)
      exact Option.some.inj (Except.ok.inj hstored)
    · rw [hf] at hanswer
      cases hanswer
  · rcases hcases with ⟨hreply, -⟩ | ⟨-, hrows⟩
    · obtain rfl := eq_badType_of_reply (hreply.symm.trans hf)
      cases hrest
    · cases f with
      | rejected error =>
        dsimp only at hrest
        split at hrest
        · obtain ⟨rfl, rfl⟩ := Session.run_pure_eq_ok.1 hrest
          exact ⟨hlegible, hreplies, .inr ⟨rfl, hrows⟩⟩
        · cases hrest
      | broken | badType | noFields => cases hrest

/-- Enrolments with results add the rows of those that were answered with assignments, in order. -/
lemma enrollAll_leaves (h : db.Legible Table.stageAssignments)
    (hutc : ∀ c ∈ calls, c.moment.offset = some .utc)
    (hrun : Session.run (enrollAll calls) db = (.ok answers, db')) :
    db'.Legible Table.stageAssignments ∧ answers.length = calls.length ∧
      db'.rows Table.stageAssignments = db.rows Table.stageAssignments ++
        rowsFrom (db.rows Table.stageAssignments).length (taken calls answers) ∧
      (db.Echoes Table.stageAssignments → answers.reduceOption =
        assignmentsFrom (db.rows Table.stageAssignments).length (taken calls answers)) := by
  induction calls generalizing db answers with
  | nil =>
    obtain ⟨rfl, rfl⟩ := Session.run_pure_eq_ok.1 hrun
    exact ⟨h, rfl, (List.append_nil _).symm, fun _ => rfl⟩
  | cons c rest ih =>
    rw [List.forall_mem_cons] at hutc
    unfold enrollAll at hrun
    rw [List.mapM_cons] at hrun
    obtain ⟨r, mid, hfirst, hrun⟩ := Session.run_bind_eq_ok.1 hrun
    obtain ⟨others, last, hothers, hrun⟩ := Session.run_bind_eq_ok.1 hrun
    obtain ⟨rfl, rfl⟩ := Session.run_pure_eq_ok.1 hrun
    obtain ⟨hmid, hreplies, hcases⟩ := enroll_leaves h hutc.1 hfirst
    obtain ⟨hlast, hlength, hrows, hanswers⟩ := ih hmid hutc.2 hothers
    have hecho : db.Echoes Table.stageAssignments → mid.Echoes Table.stageAssignments := by
      unfold Database.Echoes
      rw [hreplies]
      exact id
    refine ⟨hlast, by simp [hlength], ?_⟩
    rcases hcases with ⟨a, rfl, ha, hadded⟩ | ⟨rfl, hadded⟩
    · have hcount : (mid.rows Table.stageAssignments).length =
          (db.rows Table.stageAssignments).length + 1 := by simp [hadded]
      rw [hcount] at hrows hanswers
      refine ⟨?_, fun h => ?_⟩
      · rw [hrows, hadded, List.append_assoc]
        rfl
      · rw [List.reduceOption_cons_of_some, hanswers (hecho h), ha h]
        rfl
    · rw [hadded] at hrows hanswers
      exact ⟨hrows, fun h => (List.reduceOption_cons_of_none _).trans (hanswers (hecho h))⟩

lemma taken_sublist (h : answers.length = calls.length) : (taken calls answers).Sublist calls := by
  have hzip : (calls.zip answers).map (·.1) = calls := List.map_fst_zip h.ge
  have hfilter : (taken calls answers).Sublist ((calls.zip answers).map (·.1)) :=
    List.filter_sublist.map _
  rwa [hzip] at hfilter

lemma mem_rowsFrom {place : Nat} {row : Row} (h : row ∈ rowsFrom place calls) :
    ∃ c ∈ calls, ∃ n,
      row = identified Table.stageAssignments n (assignmentRow c.moment c.enrollment) := by
  obtain ⟨⟨c, n⟩, hc, rfl⟩ := List.mem_map.1 h
  exact ⟨c, List.fst_mem_of_mem_zipIdx hc, n, rfl⟩

lemma readAll_rowsFrom (hutc : ∀ c ∈ calls, c.moment.offset = some .utc) (place : Nat) :
    readAll (rowsFrom place calls) = assignmentsFrom place calls := by
  induction calls generalizing place with
  | nil => rfl
  | cons c rest ih =>
    rw [List.forall_mem_cons] at hutc
    have hread := assignmentOf_identified hutc.1 c.enrollment place
    have hcons : readAll (rowsFrom place (c :: rest)) =
        assignmentAt c.moment c.enrollment place :: readAll (rowsFrom (place + 1) rest) :=
      List.filterMap_cons_some (by rw [hread]; rfl)
    rw [hcons, ih hutc.2]
    rfl

lemma dateLabel_identified (now : Calendar.Moment) (e : Enrollment) (place : Nat) :
    (identified Table.stageAssignments place (assignmentRow now e)).labelOrEmpty "date_assigned" =
      now.columnText := by
  have hdate : (assignmentRow now e).get? "date_assigned" = some (.text now.columnText) := rfl
  rw [Fields.labelOrEmpty, Fields.get, get?_identified (by decide), hdate]
  exact Value.labelOrEmpty_text _

/-- Rows that were dated one after the other stand in the order of look-ups. -/
lemma pairwise_rowsFrom (hutc : ∀ c ∈ calls, c.moment.offset = some .utc)
    (hclock : calls.Pairwise fun c c' => c.moment.ticks < c'.moment.ticks) (place : Nat) :
    (rowsFrom place calls).Pairwise (RowLe ["date_assigned", "id"]) := by
  induction calls generalizing place with
  | nil => exact .nil
  | cons c rest ih =>
    rw [List.forall_mem_cons] at hutc
    rw [List.pairwise_cons] at hclock
    refine List.pairwise_cons.2 ⟨fun row hrow => ?_, ih hutc.2 hclock.2 (place + 1)⟩
    obtain ⟨c', hc', n, rfl⟩ := mem_rowsFrom hrow
    have hearlier := (Calendar.Moment.columnText_lt_iff hutc.1 (hutc.2 c' hc')).2 (hclock.1 c' hc')
    refine notAfter_cons.2 (.inl ?_)
    dsimp only
    rwa [dateLabel_identified, dateLabel_identified]

lemma pairwise_assignmentsFrom
    (hclock : calls.Pairwise fun c c' => c.moment.ticks < c'.moment.ticks) (place : Nat) :
    (assignmentsFrom place calls).Pairwise StageAssignment.Precedes := by
  induction calls generalizing place with
  | nil => exact .nil
  | cons c rest ih =>
    rw [List.pairwise_cons] at hclock
    refine List.pairwise_cons.2 ⟨fun a ha => ?_, ih hclock.2 (place + 1)⟩
    obtain ⟨⟨c', n⟩, hc', rfl⟩ := List.mem_map.1 ha
    exact ⟨_, _, rfl, rfl, hclock.1 c' (List.fst_mem_of_mem_zipIdx hc')⟩

lemma meets_assignmentFilters (q : AssignmentQuery) (now : Calendar.Moment) (e : Enrollment)
    (place : Nat) :
    meets (assignmentFilters q)
        (identified Table.stageAssignments place (assignmentRow now e)) =
      q.admits (assignmentAt now e place) := by
  have hsub : (assignmentRow now e).label "submission_id" = e.submissionId.label := rfl
  have hgroup : (assignmentRow now e).label "user_group_id" = e.groupId.label := rfl
  have huser : (assignmentRow now e).label "user_id" = e.userId.label := rfl
  rw [Bool.eq_iff_iff]
  unfold assignmentFilters AssignmentQuery.admits assignmentAt
  rcases q.groupId with _ | groupId <;> rcases q.userId with _ | userId <;>
    simp [hsub, hgroup, huser, and_assoc]

/-- Where the table holds nothing but rows that were dated one after the other, look-ups find them
in this order. -/
lemma found_rowsFrom (hutc : ∀ c ∈ calls, c.moment.offset = some .utc)
    (hclock : calls.Pairwise fun c c' => c.moment.ticks < c'.moment.ticks) {place : Nat}
    (hrows : db.rows Table.stageAssignments = rowsFrom place calls) (filters : List Filter) :
    db.found Table.stageAssignments filters ["date_assigned", "id"] =
      (rowsFrom place calls).filter (meets filters) := by
  rw [found, hrows, arrange_eq_insertionSort]
  exact ((pairwise_rowsFrom hutc hclock place).filter _).insertionSort_eq

/-- Enrolments with results, made one after the other, are listed as they were made. -/
lemma run_assignments_rowsFrom (h : db.Legible Table.stageAssignments)
    (hutc : ∀ c ∈ calls, c.moment.offset = some .utc)
    (hclock : calls.Pairwise fun c c' => c.moment.ticks < c'.moment.ticks) {place : Nat}
    (hrows : db.rows Table.stageAssignments = rowsFrom place calls)
    (clock : Reading Calendar.Moment) {q : AssignmentQuery} (hq : q.stage = none) :
    Session.run (session clock (.assignments q)) db =
      (.ok ((assignmentsFrom place calls).filter q.admits), db.note
        (.select Table.stageAssignments (assignmentFilters q) ["date_assigned", "id"])) := by
  have hread : ∀ row ∈ rowsFrom place calls, ∃ a, assignmentOf row = .ok a ∧
      q.admits a = meets (assignmentFilters q) row := by
    intro row hrow
    obtain ⟨c, hc, n, rfl⟩ := mem_rowsFrom hrow
    exact ⟨_, assignmentOf_identified (hutc c hc) _ _, (meets_assignmentFilters q _ _ _).symm⟩
  have hassignments : ∀ row ∈ db.rows Table.stageAssignments, Fields.IsAssignment row := by
    intro row hrow
    obtain ⟨a, ha, -⟩ := hread row (hrows ▸ hrow)
    exact ⟨a, ha⟩
  rw [run_assignments h hassignments clock hq, found_rowsFrom hutc hclock hrows,
    ← filter_readAll hread, readAll_rowsFrom hutc]

/-- The submitter is carried over from their own assignments of the submission, as they are
listed. -/
lemma run_carrySubmitter {clock : Reading Calendar.Moment} {logs : Bool} {x : Submission}
    {u : Value} (hu : u.isPresent = true) {p : Intake.Progress} {found : List StageAssignment}
    (h : Session.run (session clock (.assignments ⟨.text x.id, none, none, some u⟩)) db =
      (.ok found, db')) :
    Session.run (sessionOf clock (Intake.carrySubmitter logs x u p)) db =
      Session.run (sessionOf clock (Intake.carryFirstAuthor logs x p found)) db' := by
  have hplan : sessionOf clock (Intake.carrySubmitter logs x u p) =
      session clock (.assignments ⟨.text x.id, none, none, some u⟩) >>= fun found =>
        sessionOf clock (Intake.carryFirstAuthor logs x p found) := by
    rw [Intake.carrySubmitter, if_pos hu]
    rfl
  rw [hplan]
  exact (Program.run_bind _ _ _ _).trans (by rw [← Session.run, h]; rfl)

/-- Enrolments are listed in the order in which they were made. Where they all have results, from a
table without rows, with a clock in UTC that shows a later moment each time, there is one assignment
for each that took its seat, in the order of the enrolments and of their moments; these are what was
answered, if the database answers what it stored. Each query without a stage lists those that it
asks for in this order, and the submitter is carried over from them in this order. -/
theorem listed_in_order (h : db.Legible Table.stageAssignments)
    (hempty : db.rows Table.stageAssignments = [])
    (hutc : ∀ c ∈ calls, c.moment.offset = some .utc)
    (hclock : calls.Pairwise fun c c' => c.moment.ticks < c'.moment.ticks)
    (hrun : Session.run (enrollAll calls) db = (.ok answers, db')) :
    answers.length = calls.length ∧
      (assignmentsFrom 0 (taken calls answers)).Pairwise StageAssignment.Precedes ∧
      (db.Echoes Table.stageAssignments →
        answers.reduceOption = assignmentsFrom 0 (taken calls answers)) ∧
      (∀ (clock : Reading Calendar.Moment) (q : AssignmentQuery), q.stage = none →
        (Session.run (session clock (.assignments q)) db').1 =
          .ok ((assignmentsFrom 0 (taken calls answers)).filter q.admits)) ∧
      ∀ (clock : Reading Calendar.Moment) (logs : Bool) (x : Submission) (u : Value)
        (p : Intake.Progress), u.isPresent = true → ∃ db'',
          db''.rows = db'.rows ∧
          Session.run (sessionOf clock (Intake.carrySubmitter logs x u p)) db' =
            Session.run (sessionOf clock (Intake.carryFirstAuthor logs x p
              ((assignmentsFrom 0 (taken calls answers)).filter
                (AssignmentQuery.mk (.text x.id) none none (some u)).admits))) db'' := by
  obtain ⟨hlegible, hlength, hrows, hanswers⟩ := enrollAll_leaves h hutc hrun
  rw [hempty, List.nil_append] at hrows
  rw [hempty] at hanswers
  have hsublist := taken_sublist hlength
  have hutc' : ∀ c ∈ taken calls answers, c.moment.offset = some .utc := fun c hc =>
    hutc c (hsublist.subset hc)
  have hclock' := hclock.sublist hsublist
  refine ⟨hlength, pairwise_assignmentsFrom hclock' 0, hanswers, fun clock q hq => ?_,
    fun clock logs x u p hu => ⟨_, ?_, run_carrySubmitter hu
      (run_assignments_rowsFrom hlegible hutc' hclock' hrows clock rfl)⟩⟩
  · exact congrArg Prod.fst (run_assignments_rowsFrom hlegible hutc' hclock' hrows clock hq)
  · rfl

lemma micros_lt_clockSpan (n : Nat) : n % Calendar.secondTicks < Calendar.clockSpan :=
  Nat.lt_trans (Nat.mod_lt n (by decide)) (by decide)

/-- A moment in the first second of the calendar. -/
def firstMicros (n : Nat) : Calendar.Moment :=
  ⟨⟨n % Calendar.secondTicks, micros_lt_clockSpan n⟩, some .utc⟩

/-- Three enrolments in the first second of the calendar. -/
def firstSecond : List DatedEnrollment :=
  [⟨firstMicros 0, ⟨.text "sub-1", .text "g-2", .text "u-1", .bool false⟩⟩,
    ⟨firstMicros 500000, ⟨.text "sub-1", .text "g-1", .text "u-2", .bool false⟩⟩,
    ⟨firstMicros 500001, ⟨.text "sub-1", .text "g-1", .text "u-1", .bool true⟩⟩]

/-- The assignment of the first user through the second group. -/
def firstOwn : StageAssignment :=
  ⟨some "stage_assignments-1", ⟨"sub-1", "g-2", "u-1"⟩, false, some (firstMicros 0)⟩

/-- The assignment of the first user through the first group. -/
def lastOwn : StageAssignment :=
  ⟨some "stage_assignments-3", ⟨"sub-1", "g-1", "u-1"⟩, true, some (firstMicros 500001)⟩

/-- The user's two assignments are listed, the one without a fraction in its date first. -/
theorem firstSecond_listed : empty.Legible Table.stageAssignments ∧
    empty.rows Table.stageAssignments = [] ∧
    (∀ c ∈ firstSecond, c.moment.offset = some .utc) ∧
    (firstSecond.Pairwise fun c c' => c.moment.ticks < c'.moment.ticks) ∧
    ∃ (other : StageAssignment) (db' : Database),
      Session.run (enrollAll firstSecond) empty =
        (.ok [some firstOwn, some other, some lastOwn], db') ∧
      (Session.run (session (.shows Intake.dawn)
        (.assignments ⟨.text "sub-1", none, none, some (.text "u-1")⟩)) db').1 =
          .ok [firstOwn, lastOwn] := by
  have hlegible : empty.Legible Table.stageAssignments :=
    ⟨rfl, fun s hs => absurd hs List.not_mem_nil⟩
  have hutc : ∀ c ∈ firstSecond, c.moment.offset = some .utc := by decide
  have hclock : firstSecond.Pairwise fun c c' => c.moment.ticks < c'.moment.ticks := by decide
  let other : StageAssignment :=
    ⟨some "stage_assignments-2", ⟨"sub-1", "g-1", "u-2"⟩, false, some (firstMicros 500000)⟩
  have hanswers : (Session.run (enrollAll firstSecond) empty).1 =
      .ok [some firstOwn, some other, some lastOwn] := by decide +kernel
  rcases hrun : Session.run (enrollAll firstSecond) empty with ⟨r, db'⟩
  rw [hrun] at hanswers
  obtain rfl : r = .ok [some firstOwn, some other, some lastOwn] := hanswers
  obtain ⟨-, -, -, hlisted, -⟩ := listed_in_order hlegible rfl hutc hclock hrun
  refine ⟨hlegible, rfl, hutc, hclock, other, db', rfl, ?_⟩
  rw [hlisted (.shows Intake.dawn) _ rfl]
  decide +kernel

end Store
end EditorialDesk
