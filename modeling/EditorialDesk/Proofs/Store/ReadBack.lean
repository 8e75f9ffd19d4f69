import EditorialDesk.Proofs.Database.Arrangement
import EditorialDesk.Proofs.Database.Lookup
import EditorialDesk.Proofs.Intake.Enrollment
import EditorialDesk.Proofs.Store.Register

/-!
# Enrolments read back

An assignment that is stored is found among those of its submission, once and as it was
answered, and the others are found as before. Where the database does not answer what it
stored, only the identity is missing from the answer. An enrolment that is turned away was
for a seat that can be found, and changes nothing.
-/
namespace EditorialDesk

open Database

/-- The seat that an enrolment is for. -/
def Enrollment.seat (e : Enrollment) : Seat :=
  ⟨e.submissionId.label, e.groupId.label, e.userId.label⟩

/-- Seats can be taken, each of them once, and those that are taken can be read. -/
structure Database.HasSeats (db : Database) : Prop where
  undisturbed : db.Undisturbed Table.stageAssignments
  unique : db.unique = true
  assignments : ∀ row ∈ db.rows Table.stageAssignments, Fields.IsAssignment row

/-- Inserts into a table are answered with the row that was stored. -/
def Database.Echoes (db : Database) (table : String) : Prop := db.replies.part? table = .ok none

/-- Inserts into a table are answered with null, an empty list or something else that is nothing. -/
def Database.IsMute (db : Database) (table : String) : Prop :=
  ∃ v, db.replies.part? table = .ok (some v) ∧ v.isPresent = false

lemma Database.HasSeats.of_spares {db db' : Database} (h : db.HasSeats)
    (hspares : Spares (fun _ => True) db db') :
    db'.HasSeats where
  undisturbed := hspares.undisturbed h.undisturbed
  unique := by rw [← hspares.frame]; exact h.unique
  assignments row hrow := h.assignments row (hspares.rows _ trivial ▸ hrow)

lemma Database.HasSeats.inserted {db : Database} (h : db.HasSeats) {now : Calendar.Moment}
    (hnow : now.offset = some .utc) (e : Enrollment) :
    (db.inserted Table.stageAssignments (Store.assignmentRow now e)).HasSeats where
  undisturbed := (spares_inserted db _ _).undisturbed h.undisturbed
  unique := h.unique
  assignments row hrow := by
    rw [rows_inserted, List.mem_append, List.mem_singleton] at hrow
    rcases hrow with hrow | rfl
    · exact h.assignments row hrow
    · exact Store.isAssignment_identified hnow e _

lemma Database.Echoes.reply_eq {db : Database} {table : String} (h : db.Echoes table)
    (stored : Row) : db.reply table stored = .ok (.list [.object stored]) := by
  have hpart : db.replies.part? table = .ok none := h
  rw [reply, hpart]
  rfl

lemma Database.IsMute.not_echoes {db : Database} {table : String} (h : db.IsMute table) :
    ¬db.Echoes table := by
  obtain ⟨v, hpart, -⟩ := h
  intro hecho
  have hnone : db.replies.part? table = .ok none := hecho
  rw [hpart] at hnone
  cases hnone

lemma Database.IsMute.reply_eq {db : Database} {table : String} (h : db.IsMute table) :
    ∃ v, v.isPresent = false ∧ ∀ stored, db.reply table stored = .ok v := by
  obtain ⟨v, hpart, hv⟩ := h
  refine ⟨v, hv, fun stored => ?_⟩
  rw [reply, hpart]
  rfl

namespace Store

variable {db db' : Database} {now : Calendar.Moment} {e : Enrollment} {rows : List Row}
variable {row : Row}

/-- All assignments of a submission. -/
def allOf (submissionId : Value) : Request := .assignments ⟨submissionId, none, none, none⟩

/-- The assignments that are read from rows. -/
def readAll (rows : List Row) : List StageAssignment :=
  rows.filterMap fun row => (assignmentOf row).toOption

lemma filter_readAll {p : StageAssignment → Bool} {q : Row → Bool}
    (h : ∀ row ∈ rows, ∃ a, assignmentOf row = .ok a ∧ p a = q row) :
    (readAll rows).filter p = readAll (rows.filter q) := by
  induction rows with
  | nil => rfl
  | cons row rest ih =>
    rw [List.forall_mem_cons] at h
    obtain ⟨a, ha, hp⟩ := h.1
    have hread : ∀ rows, readAll (row :: rows) = a :: readAll rows :=
      fun rows => List.filterMap_cons_some (by rw [ha]; rfl)
    rw [hread, List.filter_cons, List.filter_cons, hp, ih h.2]
    split
    · rw [hread]
    · rfl

/-- The rows of a submission's assignments, the earliest first. -/
def rowsOf (submissionId : Value) (rows : List Row) : List Row :=
  arrange ["date_assigned", "id"] (rows.filter (meets [.equals "submission_id" submissionId.label]))

lemma mem_rowsOf {submissionId : Value} :
    row ∈ rowsOf submissionId rows ↔
      row ∈ rows ∧ row.label "submission_id" = submissionId.label := by
  rw [rowsOf, (arrange_perm _ _).mem_iff, List.mem_filter]
  simp only [meets_cons, meets_nil, admits_equals, and_true]

/-- The assignments that a query asks for at no stage are read from the rows that it finds. -/
lemma run_assignments (h : db.Legible Table.stageAssignments)
    (hrows : ∀ row ∈ db.rows Table.stageAssignments, Fields.IsAssignment row)
    (clock : Reading Calendar.Moment) {q : AssignmentQuery} (hq : q.stage = none) :
    Session.run (session clock (.assignments q)) db =
      (.ok (readAll
        (db.found Table.stageAssignments (assignmentFilters q) ["date_assigned", "id"])), db.note
        (.select Table.stageAssignments (assignmentFilters q) ["date_assigned", "id"])) := by
  have hlookup : Session.run (Session.lookup Table.stageAssignments (assignmentFilters q)
      ["date_assigned", "id"]) db =
        (.ok (db.found Table.stageAssignments (assignmentFilters q) ["date_assigned", "id"]),
          db.note (.select Table.stageAssignments (assignmentFilters q)
            ["date_assigned", "id"])) := by
    rw [Session.lookup, Session.run_attempt, h.perform_select]
    rfl
  have hfound : ∀ row ∈ db.found Table.stageAssignments (assignmentFilters q)
      ["date_assigned", "id"], Fields.IsAssignment row := fun row hrow =>
    hrows row (mem_found.1 hrow).1
  have hread := mapM_eq_ok hfound
  change Session.run (assignments q) db = _
  unfold assignments
  rw [hq]
  exact Session.run_bind_eq_ok.2 ⟨_, _, hlookup, Session.run_ofExcept_eq_ok.2 ⟨hread, rfl⟩⟩

lemma run_allOf (h : db.HasSeats) (clock : Reading Calendar.Moment) (submissionId : Value) :
    Session.run (session clock (allOf submissionId)) db =
      (.ok (readAll (rowsOf submissionId (db.rows Table.stageAssignments))),
        db.note (.select Table.stageAssignments [.equals "submission_id" submissionId.label]
          ["date_assigned", "id"])) :=
  run_assignments h.undisturbed.legible h.assignments clock rfl

/-- A seat that is taken is not taken again. -/
lemma run_enroll_taken (h : db.HasSeats) (now : Calendar.Moment)
    (he : seatOf e ∈ seats (db.rows Table.stageAssignments)) :
    Session.run (enroll now e) db =
      (.ok none, db.note (.insert Table.stageAssignments (assignmentRow now e))) := by
  have hinsert := h.undisturbed.perform_insert (assignmentRow now e)
  rw [violation?_assignment h.unique h.undisturbed.unreadable, if_pos he] at hinsert
  unfold enroll
  dsimp only at hinsert ⊢
  rw [Session.run_attempt, hinsert]
  simp only [isUniqueViolation_seatTaken, if_true]
  rfl

/-- A seat that is free is taken, and what was stored is told, with or without its identity. -/
lemma run_enroll_free (h : db.HasSeats) (hnow : now.offset = some .utc)
    (hreply : db.Echoes Table.stageAssignments ∨ db.IsMute Table.stageAssignments)
    (he : seatOf e ∉ seats (db.rows Table.stageAssignments)) : ∃ id,
      Session.run (enroll now e) db =
        (.ok (some { assignmentAt now e (db.rows Table.stageAssignments).length with id := id }),
          db.inserted Table.stageAssignments (assignmentRow now e)) ∧
      (db.Echoes Table.stageAssignments →
        id = (assignmentAt now e (db.rows Table.stageAssignments).length).id) ∧
      (db.IsMute Table.stageAssignments → id = none) := by
  have hinsert := h.undisturbed.perform_insert (assignmentRow now e)
  rw [violation?_assignment h.unique h.undisturbed.unreadable, if_neg he] at hinsert
  unfold enroll
  dsimp only at hinsert ⊢
  rw [Session.run_attempt, hinsert]
  rcases hreply with hecho | hmute
  · refine ⟨_, ?_, fun _ => rfl, fun hmute => absurd hecho hmute.not_echoes⟩
    rw [hecho.reply_eq]
    exact Session.run_ofExcept_eq_ok.2 ⟨enrolled_row hnow e _, rfl⟩
  · refine ⟨none, ?_, fun hecho => absurd hecho hmute.not_echoes, fun _ => rfl⟩
    obtain ⟨v, hv, hreply⟩ := hmute.reply_eq
    rw [hreply]
    exact Session.run_ofExcept_eq_ok.2 ⟨enrolled_absent hnow e _ hv, rfl⟩

lemma filter_rowsOf (p : Row → Bool) (submissionId : Value) (rows : List Row) :
    (rowsOf submissionId rows).filter p = rowsOf submissionId (rows.filter p) := by
  rw [rowsOf, rowsOf, filter_arrange, List.filter_comm]

lemma seat_eq_iff {a : StageAssignment} (ha : assignmentOf row = .ok a) :
    a.seat = e.seat ↔ seatLabels row = seatOf e := by
  rw [← seat_of_assignmentOf ha]
  exact ⟨fun h => by rw [h]; rfl, fun h => Seat.labels_injective h⟩

/-- A row that takes a seat that was free is the only one with the seat, and the others are the rows
from before. -/
lemma readAll_concat (hrows : ∀ row ∈ rows, Fields.IsAssignment row)
    (he : seatOf e ∉ seats rows) {stored : StageAssignment} (hseat : seatLabels row = seatOf e)
    (hread : assignmentOf row = .ok stored) :
    (readAll (rowsOf e.submissionId (rows ++ [row]))).filter (·.seat = e.seat) = [stored] ∧
      (readAll (rowsOf e.submissionId (rows ++ [row]))).filter (·.seat ≠ e.seat) =
        readAll (rowsOf e.submissionId rows) := by
  have hall : ∀ x ∈ rowsOf e.submissionId (rows ++ [row]), ∃ a, assignmentOf x = .ok a ∧
      (a.seat = e.seat ↔ seatLabels x = seatOf e) := by
    intro x hx
    rcases List.mem_append.1 (mem_rowsOf.1 hx).1 with hx | hx
    · obtain ⟨a, ha⟩ := hrows x hx
      exact ⟨a, ha, seat_eq_iff ha⟩
    · rw [List.mem_singleton.1 hx]
      exact ⟨stored, hread, seat_eq_iff hread⟩
  have hfree : ∀ x ∈ rows, seatLabels x ≠ seatOf e := fun x hx heq =>
    he (List.mem_map.2 ⟨x, hx, heq⟩)
  have hown : rowsOf e.submissionId [row] = [row] := by
    have hsub : row.label "submission_id" = e.submissionId.label := (List.cons.inj hseat).1
    have hmeets : meets [.equals "submission_id" e.submissionId.label] row = true := by
      simp [hsub]
    rw [rowsOf, List.filter_cons_of_pos hmeets]
    rfl
  constructor
  · rw [filter_readAll (q := fun x => seatLabels x = seatOf e) fun x hx => by
      obtain ⟨a, ha, hiff⟩ := hall x hx
      exact ⟨a, ha, by simp [hiff]⟩]
    have hnone : rows.filter (fun x => decide (seatLabels x = seatOf e)) = [] :=
      List.filter_eq_nil_iff.2 fun x hx => by simpa using hfree x hx
    rw [filter_rowsOf, List.filter_append, hnone, List.nil_append,
      List.filter_cons_of_pos (by simpa using hseat), List.filter_nil, hown, readAll,
      List.filterMap_cons_some (by rw [hread]; rfl)]
    rfl
  · rw [filter_readAll (q := fun x => seatLabels x ≠ seatOf e) fun x hx => by
      obtain ⟨a, ha, hiff⟩ := hall x hx
      exact ⟨a, ha, by simp [hiff]⟩]
    have hsame : rows.filter (fun x => decide (seatLabels x ≠ seatOf e)) = rows :=
      List.filter_eq_self.2 fun x hx => by simpa using hfree x hx
    rw [filter_rowsOf, List.filter_append, hsame,
      List.filter_cons_of_neg (by simpa using hseat), List.filter_nil, List.append_nil]

/-- An enrolment can be read back. If it took its seat, the assignments of the submission are those
from before and one of this seat, with the flag and the moment of the enrolment; this is the one
that was answered, but for the identity where the database answers nothing. If it did not, the seat
was among those from before, and nothing has changed. -/
theorem enroll_readBack (h : db.HasSeats) (hnow : now.offset = some .utc)
    (hreply : db.Echoes Table.stageAssignments ∨ db.IsMute Table.stageAssignments)
    (clock : Reading Calendar.Moment) (e : Enrollment) :
    ∃ (before after : List StageAssignment) (r : Option StageAssignment) (db' : Database),
      (Session.run (session clock (allOf e.submissionId)) db).1 = .ok before ∧
      Session.run (session (.shows now) (.enroll e)) db = (.ok r, db') ∧
      (Session.run (session clock (allOf e.submissionId)) db').1 = .ok after ∧
      Spares (· ≠ Table.stageAssignments) db db' ∧
      (∀ a, r = some a → ∃ stored : StageAssignment,
        after.filter (·.seat = e.seat) = [stored] ∧ after.filter (·.seat ≠ e.seat) = before ∧
        a.seat = e.seat ∧ a.recommendOnly = e.recommendOnly.isPresent ∧
        a.dateAssigned = some now ∧ (db.Echoes Table.stageAssignments → a = stored) ∧
        (db.IsMute Table.stageAssignments → a = { stored with id := none })) ∧
      (r = none → after = before ∧ (∃ b ∈ before, b.seat = e.seat) ∧
        Spares (fun _ => True) db db') := by
  by_cases he : seatOf e ∈ seats (db.rows Table.stageAssignments)
  · have hsame := spares_note (fun _ => True) db
      (.insert Table.stageAssignments (assignmentRow now e))
    have hafter := run_allOf (h.of_spares hsame) clock e.submissionId
    obtain ⟨row, hrow, hseat⟩ := List.mem_map.1 he
    obtain ⟨b, hb⟩ := h.assignments row hrow
    have hsub : row.label "submission_id" = e.submissionId.label := (List.cons.inj hseat).1
    have hmem : b ∈ readAll (rowsOf e.submissionId (db.rows Table.stageAssignments)) :=
      List.mem_filterMap.2 ⟨row, mem_rowsOf.2 ⟨hrow, hsub⟩, by rw [hb]; rfl⟩
    refine ⟨_, _, none, _, congrArg Prod.fst (run_allOf h clock e.submissionId),
      run_enroll_taken h now he, congrArg Prod.fst hafter, hsame.mono fun _ _ => trivial,
      fun a ha => absurd ha.symm (Option.some_ne_none a),
      fun _ => ⟨rfl, ⟨b, hmem, (seat_eq_iff hb).2 hseat⟩, hsame⟩⟩
  · obtain ⟨id, hrun, hecho, hmute⟩ := run_enroll_free h hnow hreply he
    have hread := assignmentOf_identified hnow e (db.rows Table.stageAssignments).length
    have hseats := h.inserted hnow e
    obtain ⟨hown, hothers⟩ := readAll_concat h.assignments he rfl hread
    have hafter := run_allOf hseats clock e.submissionId
    rw [rows_inserted] at hafter
    refine ⟨_, _, _, _, congrArg Prod.fst (run_allOf h clock e.submissionId), hrun,
      congrArg Prod.fst hafter, spares_inserted db _ _, fun a ha => ?_, nofun⟩
    rw [← Option.some.inj ha]
    exact ⟨_, hown, hothers, rfl, rfl, rfl, fun h => by rw [hecho h], fun h => by rw [hmute h]⟩

/-- A table with one assignment, which has no date. -/
def seated : Database :=
  { empty with tables := [(Table.stageAssignments, [
    [("id", .text "sa-9"), ("submission_id", .text "sub-1"), ("user_group_id", .text "g-1"),
      ("user_id", .text "u-1")]])] }

lemma seated_hasSeats : seated.HasSeats where
  undisturbed := ⟨fun s hs => absurd hs List.not_mem_nil, rfl⟩
  unique := rfl
  assignments row hrow := by
    rw [List.mem_singleton.1 hrow]
    exact ⟨_, rfl⟩

/-- Another user's enrolment is found beside the assignment that was there. -/
theorem seated_readBack : seated.HasSeats ∧ Intake.dawn.offset = some .utc ∧
    seated.Echoes Table.stageAssignments ∧ ∃ (a : StageAssignment) (db' : Database),
      Session.run (session (.shows Intake.dawn)
        (.enroll ⟨.text "sub-1", .text "g-1", .text "u-2", .bool true⟩)) seated =
          (.ok (some a), db') ∧
      (Session.run (session (.shows Intake.dawn) (allOf (.text "sub-1"))) seated).1 =
        .ok [⟨some "sa-9", ⟨"sub-1", "g-1", "u-1"⟩, false, none⟩] ∧
      ∃ after : List StageAssignment,
        (Session.run (session (.shows Intake.dawn) (allOf (.text "sub-1"))) db').1 = .ok after ∧
        after.filter (·.seat = ⟨"sub-1", "g-1", "u-2"⟩) = [a] := by
  have hbefore : (Session.run (session (.shows Intake.dawn) (allOf (.text "sub-1"))) seated).1 =
      .ok [⟨some "sa-9", ⟨"sub-1", "g-1", "u-1"⟩, false, none⟩] := rfl
  obtain ⟨before, after, r, db', hfirst, hrun, hsecond, -, hsome, hnone⟩ :=
    enroll_readBack seated_hasSeats (show Intake.dawn.offset = some .utc from rfl) (.inl rfl)
      (.shows Intake.dawn) ⟨.text "sub-1", .text "g-1", .text "u-2", .bool true⟩
  obtain rfl := Except.ok.inj (hfirst.symm.trans hbefore)
  cases r with
  | none =>
    obtain ⟨-, ⟨b, hb, hseat⟩, -⟩ := hnone rfl
    rw [List.mem_singleton.1 hb] at hseat
    exact absurd hseat (by decide)
  | some a =>
    obtain ⟨stored, hown, -, -, -, -, hecho, -⟩ := hsome a rfl
    rw [← hecho rfl] at hown
    exact ⟨seated_hasSeats, rfl, rfl, a, db', hrun, hbefore, after, hsecond, hown⟩

end Store
end EditorialDesk
