import EditorialDesk.Proofs.Program.Dialogue
import EditorialDesk.Proofs.Store.Scope
import EditorialDesk.Proofs.Store.Service

/-!
# Whether seats are kept unique

A database can be set to take every assignment, also one whose seat is taken. Of all queries
only an insert into the table of assignments looks at that setting. Requests are answered
either way: where seats are not kept unique, an enrolment always stores its row.
-/
namespace EditorialDesk

/-- A query that asks for no seat. -/
def Call.AsksNoSeat : Call → Prop
  | .insert table _ => table ≠ Table.stageAssignments
  | _ => True

namespace Database

/-- The database as one that keeps seats unique, or as one that does not. -/
def keeping (db : Database) (unique : Bool) : Database := { db with unique }

variable {db : Database}

lemma Plain.keeping_true (h : db.Plain) : db.keeping true = db := by
  unfold keeping
  rw [← h.unique]

lemma obstacle?_keeping {c : Call} (hc : c.AsksNoSeat) (db : Database) (unique : Bool) :
    (db.keeping unique).obstacle? c = db.obstacle? c := by
  cases c with
  | insert table row =>
    have hne : (table == Table.stageAssignments) = false := beq_eq_false_iff_ne.2 hc
    unfold obstacle? violation?
    simp only [hne, Bool.and_false]
    rfl
  | select | update | delete => rfl

lemma put_keeping (db : Database) (table : String) (contents : Value) (unique : Bool) :
    (db.keeping unique).put table contents = (db.put table contents).keeping unique := by
  unfold put
  split <;> rfl

lemma applyUnreadable_keeping (db : Database) (contents : Value) (c : Call) (unique : Bool) :
    (db.keeping unique).applyUnreadable contents c =
      ((db.applyUnreadable contents c).1, (db.applyUnreadable contents c).2.keeping unique) := by
  cases c with
  | select table filters order => rfl
  | update table patch filters => rfl
  | insert table row =>
    cases contents with
    | list items => exact Prod.ext rfl (put_keeping db table _ unique)
    | _ => rfl
  | delete table filters =>
    simp only [applyUnreadable]
    cases rowsOf contents with
    | ok rows => exact Prod.ext rfl (put_keeping db table (.list []) unique)
    | error fault => rfl

/-- What a query does once nothing stands in its way does not depend on the setting. -/
lemma apply_keeping (db : Database) (c : Call) (unique : Bool) :
    (db.keeping unique).apply c = ((db.apply c).1, (db.apply c).2.keeping unique) := by
  have hcontents : (db.keeping unique).unreadable? c.table = db.unreadable? c.table := rfl
  unfold apply
  rw [hcontents]
  split
  · cases c <;> rfl
  · exact applyUnreadable_keeping db _ c unique

theorem perform_keeping {c : Call} (hc : c.AsksNoSeat) (db : Database) (unique : Bool) :
    (db.keeping unique).perform c = ((db.perform c).1, (db.perform c).2.keeping unique) := by
  have hscripts : (db.keeping unique).scripts = db.scripts := rfl
  unfold perform
  rw [hscripts]
  rcases trigger c db.scripts with fault | ⟨fault | _, scripts⟩
  · rfl
  · have hobstacle := obstacle?_keeping hc { db with scripts } unique
    have hself : ({ db.keeping unique with scripts } : Database) =
        ({ db with scripts } : Database).keeping unique := rfl
    dsimp only
    rw [hself, hobstacle]
    generalize ({ db with scripts } : Database) = scripted
    rcases scripted.obstacle? c with fault | _ | error
    · rfl
    · exact apply_keeping (scripted.note c) c unique
    · rfl
  · rfl

/-- A session that asks for no seat comes to the same either way. -/
theorem run_keeping {α : Type} {p : Session α} (hp : p.Asks Call.AsksNoSeat) (db : Database)
    (unique : Bool) :
    p.run (db.keeping unique) = ((p.run db).1, (p.run db).2.keeping unique) := by
  let serve (c : Call) (db : Database) : Except Fault (Except CallFault c.Answer) × Database :=
    (.ok (db.perform c).1, (db.perform c).2)
  have hserve : ∀ c s t, c.AsksNoSeat → t = s.keeping unique →
      (serve c t).1 = (serve c s).1 ∧ (serve c t).2 = (serve c s).2.keeping unique ∧
        ∀ r, (serve c s).1 = .ok r → True := by
    rintro c s t hc rfl
    simp only [serve, perform_keeping hc]
    exact ⟨trivial, trivial, fun _ _ => trivial⟩
  obtain ⟨hsame, hend, -⟩ := hp.upholds.run_alike hserve (rfl : db.keeping unique = _)
  exact Prod.ext hsame hend

lemma later_inserted (db : Database) {row : Row}
    (hrow : Fields.IsAssignment (identified Table.stageAssignments
      (db.rows Table.stageAssignments).length row)) :
    Later db (db.inserted Table.stageAssignments row) where
  frame := rfl
  directory table htable := by
    have hne : table ≠ Table.stageAssignments := by
      rintro rfl
      exact absurd htable (by decide)
    simp [inserted, hne]
  assignments := by
    simp [inserted]
  readable r hr := by
    simp only [inserted, rows_setRows, if_true, List.mem_append, List.mem_singleton] at hr
    rcases hr with hr | rfl
    · exact .inl hr
    · exact .inr hrow

end Database

/-- Where users are asked for, they are named by texts. -/
def Request.NamesUsers : (q : Request) → q.Answer → Prop
  | .members .., users | .subEditors .., users | .managers _, users =>
    ∃ names : List String, users = names.map .text
  | .groupsForStage .., _ | .groupsForUser .., _ | .group _, _ | .assignments _, _ |
    .enroll _, _ | .notify _, _ | .withdraw .., _ | .log _, _ | .save _, _ => True

namespace Store

open Database

variable {now : Calendar.Moment} {base db t : Database}

lemma namesUsers_of_served {q : Request} {r : q.Answer} {ds : List Deed}
    (h : Served now base db q r ds t) : q.NamesUsers r := by
  cases q with
  | members | subEditors | managers => exact ⟨_, h.1⟩
  | _ => trivial

/-- Where seats are not kept unique, an enrolment stores its row. -/
lemma run_enroll_lax (hdb : db.Plain) (hnow : now.offset = some .utc) (e : Enrollment) :
    (enroll now e).run (db.keeping false) =
      (.ok (some (assignmentAt now e (db.rows Table.stageAssignments).length)),
        (db.inserted Table.stageAssignments (assignmentRow now e)).keeping false) := by
  have hne : (Table.stageAssignments == Table.notifications) = false := by decide
  have hscripts : (db.keeping false).scripts = [] := hdb.scripts
  have hself : ({ db.keeping false with scripts := [] } : Database) = db.keeping false := by
    rw [← hscripts]
  have hobstacle : (db.keeping false).obstacle?
      (.insert Table.stageAssignments (assignmentRow now e)) = .ok none := by
    unfold obstacle? violation?
    simp only [hne]
    rfl
  have happly : (db.note (.insert Table.stageAssignments (assignmentRow now e))).apply
      (.insert Table.stageAssignments (assignmentRow now e)) =
      (.ok (.list [.object (identified Table.stageAssignments
        (db.rows Table.stageAssignments).length (assignmentRow now e))]),
        db.inserted Table.stageAssignments (assignmentRow now e)) := by
    have hplain := hdb.note (.insert Table.stageAssignments (assignmentRow now e))
    unfold apply
    rw [hplain.unreadable?, applyRows, hplain.reply_eq]
    rfl
  have hperform : (db.keeping false).perform
      (.insert Table.stageAssignments (assignmentRow now e)) =
      (.ok (.list [.object (identified Table.stageAssignments
        (db.rows Table.stageAssignments).length (assignmentRow now e))]),
        (db.inserted Table.stageAssignments (assignmentRow now e)).keeping false) := by
    simp only [perform, hscripts, trigger, hself, hobstacle]
    exact (apply_keeping _ _ false).trans (by rw [happly])
  unfold enroll Session.run
  simp only [Session.attempt, Program.run, hperform, firstRow, firstPart, List.head?_cons, bind,
    Except.bind, pure, Except.pure, Option.getD_some, assignmentOf_identified hnow]
  rfl

/-- A request that asks for no seat is answered alike either way. -/
lemma session_keeping {q : Request} (hq : q.Writes Call.AsksNoSeat)
    (clock : Reading Calendar.Moment) (db : Database) (unique : Bool) :
    (session clock q).run (db.keeping unique) =
      (((session clock q).run db).1, ((session clock q).run db).2.keeping unique) :=
  run_keeping (session_asks clock (fun _ _ _ => trivial) hq) db unique

/-- Every request that can be asked is answered, whether or not seats are kept unique. -/
theorem session_answers (hbase : base.Sound) (hnow : now.offset = some .utc) (unique : Bool)
    {q : Request} (hq : Servable now q) (hdb : Later base db) :
    ∃ r t, (session (.shows now) q).run (db.keeping unique) = (.ok r, t.keeping unique) ∧
      q.NamesUsers r ∧ Later base t := by
  obtain ⟨r, ds, t, hrun, ⟨⟨-, hserved⟩, ht⟩, -⟩ :=
    run_of_meets (session_meets hbase hnow hq hdb)
  have hplain := hdb.plain hbase.toPlain
  have hnotices : Table.notifications ≠ Table.stageAssignments := by decide
  have hlog : Table.eventLog ≠ Table.stageAssignments := by decide
  have hsame : q.Writes Call.AsksNoSeat → ∃ r t,
      (session (.shows now) q).run (db.keeping unique) = (.ok r, t.keeping unique) ∧
        q.NamesUsers r ∧ Later base t := by
    intro hwrites
    refine ⟨r, t, ?_, namesUsers_of_served hserved, ht⟩
    rw [session_keeping hwrites, hrun]
  cases q with
  | enroll e =>
    cases unique with
    | true =>
      rw [hplain.keeping_true]
      refine ⟨r, t, ?_, trivial, ht⟩
      rw [hrun, (ht.plain hbase.toPlain).keeping_true]
    | false =>
      refine ⟨_, _, run_enroll_lax hplain hnow e, trivial, hdb.trans (later_inserted db ?_)⟩
      exact isAssignment_identified hnow e _
  | notify n => exact hsame fun _ => hnotices
  | log event => exact hsame fun _ => ⟨hlog, trivial⟩
  | _ => exact hsame trivial

end Store
end EditorialDesk
