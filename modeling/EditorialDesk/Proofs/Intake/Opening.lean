import EditorialDesk.Proofs.Intake.Completion
import EditorialDesk.Proofs.Intake.Finality
import EditorialDesk.Proofs.Store.SteadyMemory

/-!
# The opening of a call that finalizes

Before the routine runs, the row of the submission is stamped, an entry is added to the log,
and the log dates the row once more. Nothing else is written. A row that was read as a
submission before is then read as that submission, finalized at the moment of the stamp.
-/
namespace EditorialDesk

/-- A row in which the columns of a patch are overwritten, and no others. -/
def Fields.Overwrites (patch row row' : Row) : Prop :=
  ∀ column, row'.get? column = (patch.get? column).or (row.get? column)

/-- What is stored of a submission that is finalized at some moment. -/
def stamp (moment : Calendar.Moment) : Row :=
  [("submission_progress", .int 0), ("date_submitted", .text moment.columnText),
    ("date_last_activity", .text moment.columnText), ("last_modified", .text moment.columnText)]

namespace Database

variable {id : String} {change change' : Row → Row → Prop} {rows mid rows' : List Row}

/-- Rows in order, of which those of a submission have changed in some way and the others not. -/
def Rewritten (id : String) (change : Row → Row → Prop) (rows rows' : List Row) : Prop :=
  List.Forall₂ (fun row row' => if row.label "id" = id then change row row' else row' = row)
    rows rows'

lemma Rewritten.mono (h : Rewritten id change rows rows')
    (hchange : ∀ row row', change row row' → change' row row') : Rewritten id change' rows rows' :=
  h.imp fun row row' hrow => by
    split at hrow
    · next hid => exact (if_pos hid).mpr (hchange row row' hrow)
    · next hid => exact (if_neg hid).mpr hrow

/-- One change after the other, where the first leaves every row its identity. -/
lemma Rewritten.trans (h : Rewritten id change rows mid) (h' : Rewritten id change' mid rows')
    (hid : ∀ row row', change row row' → row'.get? "id" = row.get? "id") :
    Rewritten id (fun row row'' => ∃ row', change row row' ∧ change' row' row'') rows rows' := by
  unfold Rewritten at h h' ⊢
  induction h generalizing rows' with
  | nil =>
    cases h'
    exact .nil
  | @cons row row' rest rest' hrow _ ih =>
    cases h' with
    | cons hrow' hrest' =>
      refine .cons ?_ (ih hrest')
      split
      · next hsame =>
        rw [if_pos hsame] at hrow
        have hlabel : row'.label "id" = row.label "id" := by
          rw [Fields.label, Fields.get, hid _ _ hrow]
          rfl
        rw [if_pos (hlabel.trans hsame)] at hrow'
        exact ⟨row', hrow, hrow'⟩
      · next hother =>
        rw [if_neg hother] at hrow
        subst hrow
        rwa [if_neg hother] at hrow'

lemma Rewritten.forall_mem (h : Rewritten id change rows rows') {P : Row → Prop}
    (hchange : ∀ row row', change row row' → P row') :
    ∀ row ∈ rows', row.label "id" = id → P row := by
  unfold Rewritten at h
  induction h with
  | nil => exact fun row hrow => absurd hrow List.not_mem_nil
  | @cons row row' rest rest' hrow _ ih =>
    intro other hother hid
    rcases List.mem_cons.1 hother with rfl | hother
    · split at hrow
      · exact hchange row other hrow
      · next hne => exact absurd (hrow ▸ hid) hne
    · exact ih other hother hid

lemma rewritten_update {patch : Row} (hpatch : (patch.map (·.1)).Nodup) (orphans : List Value)
    (rows : List Row) (table id : String) :
    Rewritten id patch.Overwrites rows
      (effect orphans rows (.update table patch [.equals "id" id])) := by
  unfold Rewritten effect
  rw [List.forall₂_map_right_iff, List.forall₂_same]
  intro row _
  have hmeets : meets [.equals "id" id] row = true ↔ row.label "id" = id := by simp
  by_cases hid : row.label "id" = id
  · rw [if_pos hid, if_pos (hmeets.2 hid)]
    exact Fields.get?_merge row hpatch
  · rw [if_neg hid, if_neg (mt hmeets.1 hid)]

end Database

namespace Record

variable {α : Type} {name : String} {fields fields' : Fields}

/-- A field is checked by what its name stands for. -/
lemma required_congr (h : fields'.get? name = fields.get? name) (check : Check α) :
    required name check fields' = required name check fields := by
  unfold required
  rw [h]

lemma optional_congr (h : fields'.get? name = fields.get? name) (check : Check α) :
    Record.optional name check fields' = Record.optional name check fields := by
  unfold Record.optional withDefault
  rw [h]

/-- A moment that can be read back is read from the field that it was written to. -/
lemma optional_moment {m : Calendar.Moment} (hm : m.IsReadable)
    (h : fields.get? name = some (.text m.columnText)) :
    Record.optional name moment fields = .accepted (some m) := by
  refine withDefault_of_get? none h ?_
  simp only [orNull, moment, Calendar.readMoment_columnText_of_isReadable hm]
  rfl

end Record

open Record in
/-- A row that was read as a submission is read as that submission, finalized, once it has been
stamped and dated. -/
lemma Submission.read_stamped {mine now : Calendar.Moment} (hmine : mine.IsReadable)
    (hnow : now.IsReadable) {row row' row'' : Row}
    (hstamp : (stamp mine).Overwrites row row') (hdate : (Store.dated now).Overwrites row' row'')
    {x : Submission} (hx : Submission.read (.object row) = .accepted x) :
    Submission.read (.object row'') =
      .accepted { Intake.finalizedAt x mine with dateLastActivity := some now } := by
  have hget : ∀ column, row''.get? column =
      ((Store.dated now).get? column).or (((stamp mine).get? column).or (row.get? column)) :=
    fun column => by rw [hdate, hstamp]
  have hsame : ∀ {column}, (stamp mine).get? column = none →
      (Store.dated now).get? column = none → row''.get? column = row.get? column := by
    intro column hstamped hdated
    rw [hget, hstamped, hdated]
    rfl
  have hprogress : withDefault "submission_progress" 1 whole row'' = .accepted 0 := by
    unfold withDefault
    rw [hget]
    rfl
  obtain ⟨hid, hcontext, hsection, hpublication, -, -, -, -⟩ := ofFields_eq_accepted.1 hx
  exact ofFields_eq_accepted.2
    ⟨(required_congr (hsame rfl rfl) text).trans hid,
      (required_congr (hsame rfl rfl) text).trans hcontext,
      (optional_congr (hsame rfl rfl) text).trans hsection,
      (optional_congr (hsame rfl rfl) Publication.read).trans hpublication, hprogress,
      optional_moment hmine (hget "date_submitted"),
      optional_moment hnow (hget "date_last_activity"),
      optional_moment hmine (hget "last_modified")⟩

namespace Intake

open Database Store

/-- A call that finalizes a submission, by its own clock; the services go by theirs. The step is
logged, and enrolments if `logs` is set. -/
def finalizingBy (clock : Reading Calendar.Moment) (now : Calendar.Moment) (logs : Bool)
    (submitter : Option String) (s : Submission) : Session Finalized :=
  sessionOf (.shows now) (finalize logs true clock s (.ofText? submitter))

/-- A run of the routine by itself. -/
def running (now : Calendar.Moment) (logs : Bool) (submitter : Option String) (s : Submission) :
    Session Outcome :=
  sessionOf (.shows now) (run logs s (.ofText? submitter))

/-- What is done before the routine runs on a submission that is finalized: the row is stamped with
the moment, and the services, which go by their own clock, log the step and date the row. -/
structure Opened (moment now : Calendar.Moment) (s : Submission) (submitter : Option String)
    (t u : Database) : Prop where
  row : Rewritten s.id (fun row row'' => ∃ row', (stamp moment).Overwrites row row' ∧
    (dated now).Overwrites row' row'') (t.rows Table.submissions) (u.rows Table.submissions)
  entry : ∃ line : Row, u.rows Table.eventLog = t.rows Table.eventLog ++ [line] ∧
    line.get "submission_id" = .text s.id ∧ line.get "user_id" = .ofText? submitter ∧
    line.get "event_type" = .text "submission_submitted" ∧
    line.get "date_logged" = .text now.columnText
  elsewhere : ∀ table, table ≠ Table.submissions → table ≠ Table.eventLog →
    u.rows table = t.rows table
  queries : u.calls = t.calls ++
    [(Table.submissions, .update), (Table.eventLog, .insert), (Table.submissions, .update)]

variable {moment now : Calendar.Moment} {s : Submission} {submitter : Option String}
variable {t : Database}

/-- The columns of the patch that stores a finalized submission. -/
lemma submissionPatch_finalizedAt (s : Submission) (moment : Calendar.Moment) :
    submissionPatch (finalizedAt s moment) = stamp moment := rfl

lemma isAdvance_stamp (s : Submission) (moment : Calendar.Moment) : (stamp moment).IsAdvance := by
  rw [← submissionPatch_finalizedAt s]
  exact isAdvance_submissionPatch rfl rfl

/-- One query has overwritten columns in the row of a submission, and nothing else. -/
structure Patched (id : String) (patch : Row) (t u : Database) : Prop where
  row : Rewritten id patch.Overwrites (t.rows Table.submissions) (u.rows Table.submissions)
  elsewhere : ∀ table ≠ Table.submissions, u.rows table = t.rows table
  queries : u.calls = t.calls ++ [(Table.submissions, .update)]

/-- One query has added a line to the log, and nothing else. -/
structure Entered (line : Row) (t u : Database) : Prop where
  log : u.rows Table.eventLog = t.rows Table.eventLog ++ [line]
  elsewhere : ∀ table ≠ Table.eventLog, u.rows table = t.rows table
  queries : u.calls = t.calls ++ [(Table.eventLog, .insert)]

lemma patched_perform (ht : t.Plain) {patch : Row} (hpatch : patch.IsAdvance) (id : String) :
    Patched id patch t (t.perform (.update Table.submissions patch [.equals "id" id])).2 := by
  have hrows := ht.rows_perform
    (show IsNamed (.update Table.submissions patch [.equals "id" id]) from trivial)
  refine ⟨?_, fun table htable => (hrows table).trans (if_neg htable), ?_⟩
  · rw [(hrows Table.submissions).trans (if_pos rfl)]
    exact rewritten_update hpatch.1 _ _ _ _
  · rw [ht.perform_update]
    rfl

/-- Nothing is in the way of an entry in the log. -/
lemma perform_entry (ht : t.Plain) (line : Row) :
    t.perform (.insert Table.eventLog line) =
      (.ok (.list [.object (identified Table.eventLog (t.rows Table.eventLog).length line)]),
        t.inserted Table.eventLog line) := by
  have hseats : (Table.eventLog == Table.stageAssignments) = false := by decide
  have hnotices : (Table.eventLog == Table.notifications) = false := by decide
  have hfree : refuses t.orphans (t.rows Table.eventLog) Table.eventLog line = false := by
    simp [refuses, hseats, hnotices]
  rw [ht.perform_insert fun h => absurd h (by decide), hfree, if_neg Bool.false_ne_true]

lemma entered_inserted (t : Database) (line : Row) :
    Entered (identified Table.eventLog (t.rows Table.eventLog).length line) t
      (t.inserted Table.eventLog line) where
  log := by simp [inserted]
  elsewhere table htable := by simp [inserted, htable]
  queries := rfl

/-- To store a submission as finalized is to stamp its row. -/
lemma run_save (ht : t.Plain) (s : Submission) (moment : Calendar.Moment) : ∃ u,
    (save (finalizedAt s moment)).run t = (.ok (), u) ∧ Later t u ∧
      Patched s.id (stamp moment) t u := by
  have hstamp := isAdvance_stamp s moment
  have hc : (Call.update Table.submissions (stamp moment) [.equals "id" s.id]).IsOfIntake :=
    ⟨rfl, hstamp⟩
  refine ⟨_, ?_, ht.later_perform hc, patched_perform ht hstamp s.id⟩
  rw [ht.perform_update]
  simp only [save, Session.execute, Session.attempt, Session.run, bind, Program.bind,
    Program.run, finalizedAt, ht.perform_update]
  rfl

/-- To log an event is to add a line and to date the row of its submission. -/
lemma run_log (ht : t.Plain) {e : Event}
    (he : ∃ entry, LogEntry.ofEvent none now e = .accepted entry) : ∃ entry mid u place,
    (log now e).run t = (.ok entry, u) ∧ Later t u ∧
      Entered (identified Table.eventLog place (eventRow now e)) t mid ∧
      Patched e.submissionId.label (dated now) mid u := by
  have hdate : (Call.update Table.submissions (dated now)
      [.equals "id" e.submissionId.label]).IsOfIntake := ⟨rfl, isAdvance_dated now⟩
  have hentry := perform_entry ht (eventRow now e)
  have hlater : Later t (t.inserted Table.eventLog (eventRow now e)) := by
    have hl := ht.later_perform (c := .insert Table.eventLog (eventRow now e)) (.inr (.inr rfl))
    rwa [hentry] at hl
  have hmid := hlater.plain ht
  have hupdate := hmid.perform_update Table.submissions (dated now)
    [.equals "id" e.submissionId.label]
  obtain ⟨entry, haccepted⟩ := ofEvent_accepted he (labelUnlessNull (Fields.get
    (identified Table.eventLog (t.rows Table.eventLog).length (eventRow now e)) "id"))
  refine ⟨entry, _, _, _, ?_, hlater.trans (hmid.later_perform hdate), entered_inserted t _,
    patched_perform hmid (isAdvance_dated now) _⟩
  unfold dated at hupdate ⊢
  rw [hupdate]
  simp only [log, Session.execute, Session.attempt, Session.run, bind, Program.bind,
    Program.run, hentry, hupdate, firstRow, firstPart, List.head?_cons, Except.bind, pure,
    Except.pure, Option.bind_some, haccepted, Fault.ofChecked]
  rfl

/-- The three queries of the opening, one after the other. -/
lemma Patched.opened {mid logged u : Database} {line : Row}
    (hstamp : Patched s.id (stamp moment) t mid) (hline : Entered line mid logged)
    (hcolumns : line.get "submission_id" = .text s.id ∧ line.get "user_id" = .ofText? submitter ∧
      line.get "event_type" = .text "submission_submitted" ∧
      line.get "date_logged" = .text now.columnText)
    (hdate : Patched s.id (dated now) logged u) : Opened moment now s submitter t u where
  row := by
    have hrow := hdate.row
    rw [hline.elsewhere _ (by decide)] at hrow
    exact hstamp.row.trans hrow fun row row' hid => hid "id"
  entry := by
    refine ⟨line, ?_, hcolumns⟩
    rw [hdate.elsewhere _ (by decide), hline.log, hstamp.elsewhere _ (by decide)]
  elsewhere table htable hlog := by
    rw [hdate.elsewhere table htable, hline.elsewhere table hlog, hstamp.elsewhere table htable]
  queries := by
    rw [hdate.queries, hline.queries, hstamp.queries, List.append_assoc, List.append_assoc]
    rfl

/-- A submission that is finalized is stored, the step is logged, and then the routine runs. -/
theorem run_finalize_of_finalizable (ht : t.Plain) (moment now : Calendar.Moment) (logs : Bool)
    (hs : s.isFinalizable = true) (submitter : Option String) (unique : Bool) :
    ∃ u, Later t u ∧ Opened moment now s submitter t u ∧
      (finalizingBy (.shows moment) now logs submitter s).run (t.keeping unique) =
        (sessionOf (.shows now) (do
          return ⟨finalizedAt s moment,
            ← run logs (finalizedAt s moment) (.ofText? submitter), true⟩)).run
          (u.keeping unique) := by
  have hlog : Table.eventLog ≠ Table.stageAssignments := by decide
  have haccepted : ∃ entry, LogEntry.ofEvent none now
      (submittedEvent s (.ofText? submitter)) = .accepted entry := submittedEvent_accepted submitter
  obtain ⟨mid, hsave, hmid, hstamp⟩ := run_save ht s moment
  obtain ⟨entry, logged, u, place, hentry, hu, hline, hdate⟩ := run_log (hmid.plain ht) haccepted
  refine ⟨u, hmid.trans hu, hstamp.opened hline ⟨rfl, rfl, rfl, rfl⟩ hdate, ?_⟩
  let serve (q : Request) (db : Database) : Except Fault q.Answer × Database :=
    (session (.shows now) q).run db
  have hsaves : (Request.save (finalizedAt s moment)).Writes Call.AsksNoSeat := trivial
  have hlogs : (Request.log (submittedEvent s (.ofText? submitter))).Writes Call.AsksNoSeat :=
    fun _ => ⟨hlog, trivial⟩
  have hsave' : serve (.save (finalizedAt s moment)) (t.keeping unique) =
      (.ok (), mid.keeping unique) :=
    (session_keeping hsaves (.shows now) t unique).trans
      (congrArg (fun r => (r.1, r.2.keeping unique)) hsave)
  have hentry' : serve (.log (submittedEvent s (.ofText? submitter))) (mid.keeping unique) =
      (.ok entry, u.keeping unique) :=
    (session_keeping hlogs (.shows now) mid unique).trans
      (congrArg (fun r => (r.1, r.2.keeping unique)) hentry)
  rw [finalizingBy, run_sessionOf, run_sessionOf, finalize, if_pos hs, Reading.look]
  exact (Program.run_request_bind_of_ok hsave').trans (Program.run_request_bind_of_ok hentry')

end Intake
end EditorialDesk
