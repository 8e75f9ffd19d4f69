import EditorialDesk.Proofs.Intake.Isolation
import EditorialDesk.Proofs.Store.Ledger
import EditorialDesk.Proofs.Store.Surrender

/-!
# The log as an account of enrolments

A run stores an assignment and then its entry in the log. If a query fails and the run is
made again, the log has exactly one entry for each assignment that the two have added. Only
if it was the entry itself that failed is there none: its seat is taken, and the second run
passes it over.
-/
namespace EditorialDesk

open Database Store

/-! ## What the requests ask -/

namespace Store

open Session

/-- Only enrolments and entries in the log change the tables of these. -/
lemma session_leavesAlone (now : Calendar.Moment) {q : Request} (henroll : q.enrollment? = none)
    (hlog : q.isLog = false) :
    (session (.shows now) q).Asks (Call.LeavesAlone (· ∈ Table.accounted)) := by
  have hnotifications : Table.notifications ∉ Table.accounted := by decide
  refine session_asks (.shows now) (fun _ _ _ => .inl rfl) ?_
  cases q with
  | notify n => exact fun _ => .inr hnotifications
  | withdraw types target targetId => exact .inr hnotifications
  | save s => exact .inr (show Table.submissions ∉ Table.accounted by decide)
  | enroll e => cases henroll
  | log event => cases hlog
  | _ => trivial

variable {now : Calendar.Moment} {db : Database}

/-- An enrolment is one query, and is turned away if the seat is taken. -/
lemma watch_enroll (hdb : db.Plain) (hnow : now.offset = some .utc) (e : Enrollment) :
    (enroll now e).watch none db =
      ⟨.ok (if seatOf e ∈ seats (db.rows Table.stageAssignments) then none
          else some (assignmentAt now e (db.rows Table.stageAssignments).length)),
        (db.perform (.insert Table.stageAssignments (assignmentRow now e))).2,
        [.insert Table.stageAssignments (assignmentRow now e)]⟩ := by
  have hnamed := isNamed_assignment (assignmentRow now e)
  have hseat : refuses db.orphans (db.rows Table.stageAssignments) Table.stageAssignments
      (assignmentRow now e) = true ↔ seatOf e ∈ seats (db.rows Table.stageAssignments) := by
    have hne : (Table.stageAssignments == Table.notifications) = false := by decide
    change _ ↔ seatLabels (assignmentRow now e) ∈ _
    simp [refuses, hne, seats]
  unfold enroll Session.attempt
  dsimp only [watch]
  rcases insert_cases hdb hnamed with ⟨hr, hanswer, -⟩ | ⟨hr, hanswer, -⟩
  · rw [hanswer, if_pos (hseat.1 hr)]
    simp only [refusal, beq_self_eq_true, if_true, isUniqueViolation_seatTaken]
    rfl
  · rw [hanswer, if_neg fun hmem => by simp [hseat.2 hmem] at hr]
    simp only [firstRow, firstPart, List.head?_cons, bind, Except.bind, pure, Except.pure,
      Option.getD_some, assignmentOf_identified hnow]
    rfl

/-- An enrolment that is granted has to be followed by its entry. -/
lemma enroll_entered {α : Type} {g : Option StageAssignment → Session α} {submissionId : String}
    (hdb : db.Plain) (hnow : now.offset = some .utc) {e : Enrollment}
    (he : e.submissionId = .text submissionId)
    (hnone : ∀ {mid : Database}, mid.Plain →
      Entered submissionId mid ((g none).watch none mid).queries)
    (hsome : ∀ a {mid : Database}, mid.Plain →
      EntersNext submissionId (seatOf e) mid ((g (some a)).watch none mid).queries) :
    Entered submissionId db ((enroll now e >>= g).watch none db).queries := by
  have hplain := (hdb.spares_assignment (assignmentRow now e)).plain hdb
  rw [queries_bind, watch_enroll hdb hnow]
  by_cases hseat : seatOf e ∈ seats (db.rows Table.stageAssignments)
  · rw [if_pos hseat]
    exact .refused hseat (hnone hplain)
  · rw [if_neg hseat]
    exact .of_entersNext hseat (congrArg Value.label he) (hsome _ hplain)

/-- To log an event is to make its entry first. What is done then leaves the entries alone. -/
lemma log_entersNext {α : Type} {g : LogEntry → Session α} {submissionId : String}
    {event : Event} {seat : List String} (hdb : db.Plain)
    (hevent : Fields.assigned? (eventRow now event) = some seat)
    (hg : ∀ entry {mid : Database}, mid.Plain →
      Entered submissionId mid ((g entry).watch none mid).queries) :
    EntersNext submissionId seat db ((log now event >>= g).watch none db).queries := by
  obtain ⟨rest, hask, hrest⟩ : ∃ rest,
      log now event = .ask (.insert Table.eventLog (eventRow now event)) rest ∧
        ∀ r, (rest r).Asks (Call.LeavesAlone (· ∈ Table.accounted)) := by
    refine ⟨_, rfl, fun r => ?_⟩
    cases r with
    | error fault => trivial
    | ok answer =>
      exact (asks_execute (.inr (show Table.submissions ∉ Table.accounted by decide))).bind
        fun _ => Program.asks_ofExcept _
  have hplain := (hdb.spares_entry (eventRow now event)).plain hdb
  rw [hask]
  exact ⟨_, _, rfl, hevent, entered_bind hplain (hrest _) hg⟩

end Store

namespace Intake

variable {now : Calendar.Moment} {s : Submission} {α : Type}

lemma assigned?_eventRow (now : Calendar.Moment) (submissionId : String) (g : UserGroup)
    {e : Enrollment} (hsub : e.submissionId = .text submissionId)
    (hgroup : e.groupId = .text g.id) :
    Fields.assigned? (eventRow now (participantEvent submissionId g e.userId)) =
      some (seatOf e) := by
  unfold seatOf
  rw [hsub, hgroup]
  rfl

section Logged

variable {submissionId : String} {xs ys : Talk} {x : Exchange Request Request.Answer Fault}

lemma Logged.tail (h : Logged true submissionId (x :: xs)) (hx : x.granted? = none) :
    Logged true submissionId xs := by
  cases h with
  | other _ _ rest => exact rest
  | silent hlogs => cases hlogs
  | entered => cases hx

/-- An enrolment that was granted is logged with its entry. -/
lemma Logged.after_entry {y : Exchange Request Request.Answer Fault}
    (h : Logged true submissionId (x :: y :: xs)) (hx : x.granted? ≠ none) :
    Logged true submissionId xs := by
  cases h with
  | other hgranted => exact absurd hgranted hx
  | silent hlogs => cases hlogs
  | entered _ _ rest => exact rest

/-- What follows exchanges that are logged is logged in itself. -/
lemma Logged.of_append (h : Logged true submissionId xs)
    (h' : Logged true submissionId (xs ++ ys)) : Logged true submissionId ys := by
  induction h with
  | nil => exact h'
  | other hgranted _ _ ih => exact ih (h'.tail hgranted)
  | silent hlogs => cases hlogs
  | entered _ _ _ ih => exact ih (h'.after_entry (Option.some_ne_none _))

lemma Logged.last (h : Logged true submissionId xs)
    (h' : Logged true submissionId (xs ++ [x])) :
    x.granted? = none ∧ x.request.isLog = false := by
  cases h.of_append h' with
  | other hgranted hlog => exact ⟨hgranted, hlog⟩
  | silent hlogs => cases hlogs

lemma Logged.next {e : Enrollment} {a : StageAssignment} (h : Logged true submissionId xs)
    (h' : Logged true submissionId (xs ++ [⟨.enroll e, .ok (some a)⟩] ++ [x])) :
    ∃ g : UserGroup, e.groupId = .text g.id ∧
      x.request = .log (participantEvent submissionId g e.userId) := by
  rw [List.append_assoc] at h'
  cases h.of_append h' with
  | other hgranted => cases hgranted
  | silent hlogs => cases hlogs
  | entered _ hgroup => exact ⟨_, hgroup, rfl⟩

end Logged

lemma sessionOf_ask (clock : Reading Calendar.Moment) (q : Request) (next : q.Answer → Plan α) :
    sessionOf clock (.ask q next) = session clock q >>= fun r => sessionOf clock (next r) := rfl

lemma isClear_of_none (q : Request) (r : q.Answer) : q.IsClear (fun _ => False) r := by
  cases q <;> first | trivial | exact fun _ _ => id

/-- What is still to come of a plan that logs what it is granted: if nothing waits to be entered,
queries of which every assignment is entered, and otherwise first the entry that waits. -/
theorem queries_entered (hnow : now.offset = some .utc) {plan : Plan α} {xs : Talk}
    (hlogged : plan.Ensures xs (fun _ => Logged true s.id) (Logged true s.id))
    (hlocal : KeepsTo s (fun _ => False) plan fun _ => True) {db : Database} (hdb : db.Plain) :
    (Logged true s.id xs →
      Entered s.id db ((sessionOf (.shows now) plan).watch none db).queries) ∧
    ∀ ys e a, xs = ys ++ [⟨.enroll e, .ok (some a)⟩] → Logged true s.id ys →
      e.submissionId = .text s.id →
        EntersNext s.id (seatOf e) db ((sessionOf (.shows now) plan).watch none db).queries := by
  have hopen : ∀ {ys : Talk} {e a}, Logged true s.id ys →
      ¬ Logged true s.id (ys ++ [⟨.enroll e, .ok (some a)⟩]) := by
    intro ys e a hys h
    cases (hys.last h).1
  induction plan generalizing xs db with
  | done a =>
    refine ⟨fun _ => .nil db, ?_⟩
    rintro ys e a rfl hys
    exact absurd hlogged (hopen hys)
  | fault e =>
    refine ⟨fun _ => .nil db, ?_⟩
    rintro ys e a rfl hys
    exact absurd hlogged (hopen hys)
  | ask q next ih =>
    have hnext := fun r {mid : Database} (hmid : mid.Plain) =>
      ih r (hlogged.2 r) (hlocal.2 r (isClear_of_none q r)) hmid
    rw [sessionOf_ask]
    constructor
    · intro hxs
      obtain ⟨-, hlog⟩ := hxs.last (hlogged.1 .badType)
      cases q with
      | enroll e =>
        refine enroll_entered hdb hnow hlocal.1.1 (fun hmid => ?_) fun a _ hmid => ?_
        · exact (hnext none hmid).1 (hxs.append (.other rfl rfl .nil))
        · exact (hnext (some a) hmid).2 xs e a rfl hxs hlocal.1.1
      | _ =>
        exact entered_bind hdb (session_leavesAlone now rfl hlog) fun r _ hmid =>
          (hnext r hmid).1 (hxs.append (.other rfl hlog .nil))
    · rintro ys e a rfl hys hsub
      obtain ⟨g, hgroup, hq⟩ := hys.next (hlogged.1 .badType)
      obtain rfl : q = .log (participantEvent s.id g e.userId) := hq
      refine log_entersNext hdb (assigned?_eventRow now s.id g hsub hgroup) fun entry _ hmid => ?_
      refine (hnext entry hmid).1 ?_
      rw [List.append_assoc]
      exact hys.append (.entered rfl hgroup .nil)

section Run

variable {now' : Calendar.Moment} {db : Database} {f : CallFault}

/-- A run enters in the log what it enrols, and nothing else. -/
lemma run_entered (hdb : db.Plain) (hnow : now.offset = some .utc) (s : Submission)
    (submitter : Value) :
    Entered s.id db ((sessionOf (.shows now) (run true s submitter)).watch none db).queries := by
  have hlogged := (run_ensures true s submitter).mono (fun _ _ h => h.1.logged)
    fun _ h => h.logged
  exact (queries_entered hnow hlogged (run_keepsTo true s submitter) hdb).1 .nil

/-- A run of which a query fails lacks at most the entry that this query was to make. -/
lemma cut_booked (hdb : db.Plain) (hnow : now.offset = some .utc) (s : Submission)
    (submitter : Value) (hf : f.IsOutage) (k : Nat) :
    let first := (sessionOf (.shows now) (run true s submitter)).watch (some (k, f)) db
    ∃ added logged, Booked s.id db first.database added logged
      (first.queries[k]?.bind Call.entry?).toList := by
  intro first
  obtain ⟨added, logged, hbooked⟩ := (run_entered hdb hnow s submitter).booked hdb k
  have hcut : first = _ := Session.watch_cut (surrenders_sessionOf hf _ _) k db
  refine ⟨added, logged, ?_⟩
  cases hc : ((sessionOf (.shows now) (run true s submitter)).watch none db).queries[k]? with
  | none =>
    rw [hc] at hcut hbooked
    rw [List.take_of_length_le (List.getElem?_eq_none_iff.1 hc), ← Session.watch_performed]
      at hbooked
    rw [hcut, hc]
    exact hbooked
  | some c =>
    rw [hc] at hcut hbooked
    have hlast : first.queries[k]? = some c := by
      rw [hcut]
      simp only [List.getElem?_take, Nat.lt_succ_self, if_true, hc]
    have hnoted := hbooked.trans (booked_of_spares s.id (spares_note _ _ c))
    simp only [List.append_nil] at hnoted
    rw [hlast, hcut]
    exact hnoted

/-- Whatever fails, a run leaves a later state of the database. -/
lemma cut_later (hdb : db.Sound) (hnow : now.offset = some .utc) (s : Submission)
    (submitter : Value) (hf : f.IsOutage) (k : Nat) :
    Later db ((sessionOf (.shows now) (run true s submitter)).watch (some (k, f)) db).database := by
  have hmeets := runSession_meets hdb hnow true s submitter
  have hsurrenders := surrenders_sessionOf hf (.shows now) (run true s submitter)
  by_cases hk : k < ((sessionOf (.shows now) (run true s submitter)).watch none db).queries.length
  · obtain ⟨_, _, _, mid, c, -, -, hmid, -, -, hcut⟩ :=
      Session.watch_outage hmeets hsurrenders hk
    rw [hcut]
    exact (hmid.later hdb.toPlain).trans (later_note mid c)
  · have hnone := List.getElem?_eq_none_iff.2 (Nat.le_of_not_lt hk)
    obtain ⟨_, _, u, hrun, -, hleads⟩ := run_of_meets hmeets
    rw [← Session.watch_none] at hrun
    rw [Session.watch_cut hsurrenders, hnone, (Prod.mk.inj hrun).2]
    exact hleads.later hdb.toPlain

/-- A run of which a query fails, and another one that follows: the second comes to an outcome, and
the log lacks at most the entry that was to be made when the first one failed. -/
lemma runs_booked {base : Database} (h : base.WellFormed) (hnow : now.offset = some .utc)
    (hnow' : now'.offset = some .utc) (s : Submission) (submitter submitter' : Value)
    (hf : f.IsOutage) (k : Nat) :
    let first := (sessionOf (.shows now) (run true s submitter)).watch (some (k, f)) base
    let second := (sessionOf (.shows now') (run true s submitter')).watch none first.database
    ∃ o added logged, second.result = .ok o ∧
      Booked s.id base second.database added logged
        (first.queries[k]?.bind Call.entry?).toList := by
  intro first second
  have hlater := cut_later h.sound hnow s submitter hf k
  have hsound := hlater.sound h.sound
  obtain ⟨added, logged, hfirst⟩ := cut_booked h.toPlain hnow s submitter hf k
  obtain ⟨o, _, u, hrun, -⟩ := run_alone hsound hnow' true s submitter'
  rw [← Session.watch_none] at hrun
  obtain ⟨added', logged', hsecond⟩ :=
    (run_entered hsound.toPlain hnow' s submitter').booked hsound.toPlain second.queries.length
  rw [List.take_length, List.getElem?_length, ← Session.watch_performed] at hsecond
  have hboth := hfirst.trans hsecond
  rw [Option.bind_none, Option.toList_none, List.append_nil] at hboth
  exact ⟨o, _, _, (Prod.mk.inj hrun).1, hboth⟩

/-- A run of which a query fails, and another one that follows: each assignment that the two have
added has exactly one entry in the log, with its submission, group and user. Only if it is the entry
itself that failed is there none. Nothing else is entered. -/
theorem enrollments_accounted {base : Database} (h : base.WellFormed)
    (hnow : now.offset = some .utc) (hnow' : now'.offset = some .utc) (s : Submission)
    (submitter submitter' : Value) (hf : f.IsOutage) (k : Nat) :
    let first := (sessionOf (.shows now) (run true s submitter)).watch (some (k, f)) base
    let second := (sessionOf (.shows now') (run true s submitter')).watch none first.database
    let lost := (first.queries[k]?.bind Call.entry?).toList
    ∃ o added logged, second.result = .ok o ∧
      Booked s.id base second.database added logged lost ∧
      ∀ row ∈ added, (logged.map Fields.assigned?).count (some (seatLabels row)) =
        if some (seatLabels row) ∈ lost.map Fields.assigned? then 0 else 1 := by
  intro first second lost
  obtain ⟨o, added, logged, hresult, hbooked⟩ :=
    runs_booked h hnow hnow' s submitter submitter' hf k
  exact ⟨o, added, logged, hresult, hbooked, fun row hrow => hbooked.count_eq hrow⟩

end Run

lemma isOutage_broken : (CallFault.broken "").IsOutage := by
  intro e he
  cases he

/-- In the small office the first assignment and its entry are stored when the date of the last
activity fails to be. Both assignments have their entries in the end. -/
theorem office_accounted : office.WellFormed ∧ dawn.offset = some .utc ∧
    (CallFault.broken "").IsOutage ∧
    let session := sessionOf (.shows dawn) (run true paper .null)
    let first := session.watch (some (8, .broken "")) office
    let second := session.watch none first.database
    first.queries[8]?.bind Call.entry? = none ∧
    ∃ o added logged, second.result = .ok o ∧
      second.database.rows Table.stageAssignments = added ∧
      second.database.rows Table.eventLog = logged ∧
      ∀ row ∈ added, (logged.map Fields.assigned?).count (some (seatLabels row)) = 1 := by
  have hdawn : dawn.offset = some .utc := rfl
  have hlost : (((sessionOf (.shows dawn) (run true paper .null)).watch (some (8, .broken ""))
      office).queries[8]?.bind Call.entry?) = none := by decide +kernel
  obtain ⟨o, added, logged, hresult, hbooked, hcount⟩ := enrollments_accounted office_wellFormed
    hdawn hdawn paper .null .null isOutage_broken 8
  refine ⟨office_wellFormed, hdawn, isOutage_broken, hlost, o, added, logged, hresult,
    hbooked.assignments, hbooked.entries, fun row hrow => ?_⟩
  rw [hcount row hrow, hlost]
  rfl

/-- In the small office the entry of the first assignment fails to be stored. The assignment is
there, so that the next run passes it over, and no entry is ever made of it. -/
theorem office_entry_lost : office.WellFormed ∧ (CallFault.broken "").IsOutage ∧
    let session := sessionOf (.shows dawn) (run true paper .null)
    let first := session.watch (some (7, .broken "")) office
    let second := session.watch none first.database
    office.rows Table.stageAssignments = [] ∧ (∃ o, second.result = .ok o) ∧
      ∃ row ∈ second.database.rows Table.stageAssignments,
        seatLabels row = ["sub-1", "g-1", "u-1"] ∧
        ∀ entry ∈ second.database.rows Table.eventLog,
          entry.assigned? ≠ some ["sub-1", "g-1", "u-1"] := by
  have hdawn : dawn.offset = some .utc := rfl
  have hlost : (((sessionOf (.shows dawn) (run true paper .null)).watch (some (7, .broken ""))
      office).queries[7]?.bind Call.entry?).toList.map Fields.assigned? =
        [some ["sub-1", "g-1", "u-1"]] := by decide +kernel
  obtain ⟨o, added, logged, hresult, hbooked⟩ := runs_booked office_wellFormed hdawn hdawn paper
    .null .null isOutage_broken 7
  have hseat : some ["sub-1", "g-1", "u-1"] ∈ (seats added).map some := by
    rw [← hbooked.agree.mem_iff, List.map_append, hlost]
    exact List.mem_append_right _ (List.mem_singleton.2 rfl)
  obtain ⟨seat, hmem, hsome⟩ := List.mem_map.1 hseat
  obtain ⟨row, hrow, rfl⟩ := List.mem_map.1 hmem
  have hnone := hbooked.count_eq hrow
  rw [hsome, hlost, if_pos (List.mem_singleton.2 rfl), List.count_eq_zero] at hnone
  refine ⟨office_wellFormed, isOutage_broken, rfl, ⟨o, hresult⟩, row, ?_, Option.some.inj hsome,
    fun entry hentry heq => hnone ?_⟩
  · rw [hbooked.assignments]
    exact List.mem_append_right _ hrow
  · rw [hbooked.entries] at hentry
    exact List.mem_map.2 ⟨entry, hentry, heq⟩

end Intake
end EditorialDesk
