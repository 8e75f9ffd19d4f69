import EditorialDesk.Proofs.Database.Firm
import EditorialDesk.Proofs.Program.Lockstep
import EditorialDesk.Proofs.Store.Register
import EditorialDesk.Proofs.Store.Scope

/-!
# Silent tables

A database may leave out its answers to what is written to some tables. A write then takes
effect or fails as ever, but nothing is told of the rows. Each request puts the same queries
as if it were told, and is answered alike: a new assignment has no identity where it was not
told, and nobody looks at what else is missing.
-/
namespace EditorialDesk

open Database

/-- The tables that are silent, and what stands for no data in answer to an insert. -/
structure Silence where
  tables : String → Bool
  /-- Null, an empty list or anything else that counts as absent, perhaps another each time. -/
  blank : Database → Call → Value
  absent : ∀ db c, (blank db c).isPresent = false

/-- How a second answer to a query has to do with a first if some tables are silent: nothing is left
out of a look-up, and of an insert only the row that was stored. -/
def Call.Echo (silent : String → Bool) : (c : Call) → c.Answer → c.Answer → Prop
  | .select .., rows, rows' => rows' = rows
  | .insert table row, v, v' => (∃ place, v = .list [.object (identified table place row)]) ∧
    if silent table then v'.isPresent = false else v' = v
  | .update .., _, _ | .delete .., _, _ => True

/-- A query fails with one fault, or has two answers that have to do with each other. -/
inductive Call.Replies (silent : String → Bool) (c : Call) :
    Except CallFault c.Answer → Except CallFault c.Answer → Prop
  | fault (f : CallFault) : Replies silent c (.error f) (.error f)
  | answer {a a' : c.Answer} (h : c.Echo silent a a') : Replies silent c (.ok a) (.ok a')

/-- How a second answer to a request has to do with a first if new assignments are told of in other
words, and nothing is to be relied on of what else is written. -/
def Request.Retold (f : StageAssignment → StageAssignment) :
    (q : Request) → q.Answer → q.Answer → Prop
  | .enroll _, r, r' => r' = r.map f
  | .notify _, _, _ | .withdraw .., _, _ | .log _, _, _ => True
  | .groupsForStage .., r, r' | .groupsForUser .., r, r' => r' = r
  | .group _, r, r' => r' = r
  | .members .., r, r' | .subEditors .., r, r' | .managers _, r, r' => r' = r
  | .assignments _, r, r' => r' = r
  | .save _, r, r' => r' = r

namespace Silence

/-- What is left of an answer. -/
def answer (x : Silence) (db : Database) : (c : Call) → c.Answer → c.Answer
  | .select .., rows => rows
  | .insert table row, v => if x.tables table then x.blank db (.insert table row) else v
  | .update table .., rows | .delete table .., rows => if x.tables table then [] else rows

/-- A query takes effect or fails as ever. -/
def perform (x : Silence) (db : Database) (c : Call) : Except CallFault c.Answer × Database :=
  ((db.perform c).1.map (x.answer db c), (db.perform c).2)

/-- An assignment as it is told of where the table of assignments may be silent. -/
def told (x : Silence) (a : StageAssignment) : StageAssignment :=
  if x.tables Table.stageAssignments then { a with id := none } else a

variable {x : Silence} {db : Database}

lemma isPresent_answer (db : Database) {table : String} (h : x.tables table = true) (row : Row)
    (v : Value) : (x.answer db (.insert table row) v).isPresent = false := by
  simp only [answer, h, if_true]
  exact x.absent _ _

/-- On a plain database, to be silent is to leave out no more than rows that were stored. -/
theorem replies_perform (h : db.Plain) (c : Call) :
    c.Replies x.tables (db.perform c).1 (x.perform db c).1 := by
  rw [perform]
  cases c with
  | insert table row =>
    rw [h.firm.perform_insert (h.failure?_eq table .insert)]
    split
    · exact .fault _
    · exact .fault _
    · dsimp only
      rw [h.reply_eq]
      refine .answer ⟨⟨_, rfl⟩, ?_⟩
      split
      · next hsilent => exact isPresent_answer db hsilent row _
      · next hsilent => exact if_neg hsilent
  | select table filters order =>
    cases (db.perform (.select table filters order)).1 with
    | error f => exact .fault f
    | ok rows => exact .answer rfl
  | update table patch filters =>
    cases (db.perform (.update table patch filters)).1 with
    | error f => exact .fault f
    | ok rows => exact .answer trivial
  | delete table filters =>
    cases (db.perform (.delete table filters)).1 with
    | error f => exact .fault f
    | ok rows => exact .answer trivial

end Silence

namespace Session

variable {α β : Type} {silent : String → Bool} {post : α → β → Prop}

/-- How queries are answered to a session. -/
def serving (perform : Database → (c : Call) → Except CallFault c.Answer × Database) (c : Call)
    (db : Database) : Except Fault (Except CallFault c.Answer) × Database :=
  (.ok (perform db c).1, (perform db c).2)

/-- Runs a session on a database whose queries are performed in a way of their own. -/
def runOn (perform : Database → (c : Call) → Except CallFault c.Answer × Database)
    (s : Session α) (db : Database) : Except Fault α × Database :=
  Program.run (serving perform) s db

/-- The queries of a session with all that they hold, in order. -/
def calls (perform : Database → (c : Call) → Except CallFault c.Answer × Database)
    (s : Session α) (db : Database) : List Call :=
  Program.requests (serving perform) s db

lemma lockstep_attempt {c : Call} {onAnswer : c.Answer → Session α}
    {onAnswer' : c.Answer → Session β} {onFault : CallFault → Session α}
    {onFault' : CallFault → Session β}
    (hanswer : ∀ a a', c.Echo silent a a' →
      Program.Lockstep (Call.Replies silent) post (onAnswer a) (onAnswer' a'))
    (hfault : ∀ f, Program.Lockstep (Call.Replies silent) post (onFault f) (onFault' f)) :
    Program.Lockstep (Call.Replies silent) post (attempt c onAnswer onFault)
      (attempt c onAnswer' onFault') :=
  .ask c fun r r' hr => by
    cases hr with
    | fault f => exact hfault f
    | answer h => exact hanswer _ _ h

lemma lockstep_execute (silent : String → Bool) (c : Call) :
    Program.Lockstep (Call.Replies silent) (c.Echo silent) (execute c) (execute c) :=
  lockstep_attempt (fun _ _ h => .done h) fun _ => .fault _

lemma lockstep_of_looksInto {seen : String → Prop} {s : Session α}
    (hs : s.Asks (Call.LooksInto seen)) :
    Program.Lockstep (Call.Replies silent) (fun a b => b = a) s s :=
  hs.lockstep fun c hc r r' hr => by
    cases c with
    | insert | update | delete => exact hc.elim
    | select table filters order =>
      cases hr with
      | fault f => rfl
      | answer h => exact congrArg Except.ok h

/-- A session comes to the same on a plain database that is silent as far as it puts the same
queries. -/
theorem runOn_of_lockstep {x : Silence} {s : Session α} {s' : Session β}
    (h : Program.Lockstep (Call.Replies x.tables) post s s') {db db' : Database} {a : α}
    (hdb : db.Plain) (hrun : s.run db = (.ok a, db')) :
    ∃ b, runOn x.perform s' db = (.ok b, db') ∧ post a b ∧
      calls x.perform s' db = calls Database.perform s db := by
  have hserve : ∀ c t, Database.Plain t → ∃ r r' u,
      serving Database.perform c t = (.ok r, u) ∧ serving x.perform c t = (.ok r', u) ∧
        c.Replies x.tables r r' ∧ u.Plain := by
    intro c t ht
    have hframe : Spares (fun _ => False) t (t.perform c).2 := ht.firm.perform_spares (.inr id)
    exact ⟨_, _, _, rfl, rfl, x.replies_perform ht c, hframe.plain ht⟩
  obtain ⟨hstate, hcalls, hpost⟩ := h.run hserve hdb
  have hfirst : Program.run (serving Database.perform) s db = (.ok a, db') := hrun
  rw [hfirst] at hstate hpost
  obtain ⟨b, hb, hab⟩ := hpost a rfl
  exact ⟨b, Prod.ext hb hstate, hab, hcalls⟩

end Session

namespace Store

open Program (Lockstep)

variable {now : Calendar.Moment} {x : Silence}

/-- A seat that is free is taken, whether or not the row comes back: then what was to be stored is
read in its place, and that has no identity. -/
lemma enroll_lockstep (hnow : now.offset = some .utc) (e : Enrollment) :
    Lockstep (Call.Replies x.tables) (Request.Retold x.told (.enroll e)) (enroll now e)
      (enroll now e) := by
  refine Session.lockstep_attempt (fun v v' hv => ?_) fun f => ?_
  · obtain ⟨⟨place, rfl⟩, hv'⟩ := hv
    change Lockstep _ _ (Program.ofExcept (enrolled now e _)) (Program.ofExcept (enrolled now e v'))
    rw [enrolled_row hnow]
    split at hv'
    · next hsilent =>
      rw [enrolled_absent hnow e place hv']
      refine .done ?_
      simp only [Request.Retold, Silence.told, hsilent, if_true, Option.map_some]
    · next hsilent =>
      rw [hv', enrolled_row hnow]
      refine .done ?_
      simp only [Request.Retold, Silence.told, if_neg hsilent, Option.map_some]
  · cases f with
    | rejected error =>
      dsimp only
      split
      · exact .done rfl
      · exact .fault _
    | _ => exact .fault _

lemma notify_lockstep (n : Notice) :
    Lockstep (Call.Replies x.tables) (Request.Retold x.told (.notify n)) (notify now n)
      (notify now n) := by
  refine Session.lockstep_attempt (fun v v' hv => ?_) fun f => ?_
  · obtain ⟨⟨place, rfl⟩, hv'⟩ := hv
    split at hv'
    · rw [firstPart_of_absent hv']
      exact .done trivial
    · rw [hv']
      exact .done trivial
  · cases f with
    | rejected error =>
      dsimp only
      split
      · exact .done trivial
      · exact .fault _
    | _ => exact .fault _

lemma withdraw_lockstep (types : List NotificationType) (target : TargetType) (targetId : Value) :
    Lockstep (Call.Replies x.tables) (Request.Retold x.told (.withdraw types target targetId))
      (withdraw types target targetId) (withdraw types target targetId) := by
  unfold withdraw
  split
  · exact .done trivial
  · exact (Session.lockstep_execute _ _).bind fun _ _ _ => .done trivial

/-- An entry of the log is read from the event; its row is looked at for the identity only. -/
lemma log_lockstep (e : Event) :
    Lockstep (Call.Replies x.tables) (Request.Retold x.told (.log e)) (log now e) (log now e) := by
  refine (Session.lockstep_execute _ _).bind fun v v' hv => ?_
  refine (Session.lockstep_execute _ _).bind fun _ _ _ => ?_
  obtain ⟨⟨place, rfl⟩, hv'⟩ := hv
  have hentry : ∀ id id' : Option String, Lockstep (Call.Replies x.tables)
      (Request.Retold x.told (.log e))
      (Program.ofExcept (Fault.ofChecked (LogEntry.ofEvent id now e)))
      (Program.ofExcept (Fault.ofChecked (LogEntry.ofEvent id' now e))) := by
    intro id id'
    unfold LogEntry.ofEvent
    cases LogEntry.ofFieldsAt (.accepted now) e.fields with
    | accepted entry => exact .done trivial
    | refused issues => exact .fault _
  split at hv'
  · rw [firstRow_of_absent hv']
    exact hentry _ _
  · rw [hv']
    exact hentry _ _

/-- Every request puts the same queries whether or not tables are silent, and is answered alike. -/
theorem session_lockstep (x : Silence) (hnow : now.offset = some .utc) (q : Request) :
    Lockstep (Call.Replies x.tables) (q.Retold x.told) (session (.shows now) q)
      (session (.shows now) q) := by
  have hlooks : q.Writes (Call.LooksInto fun _ => True) →
      Lockstep (Call.Replies x.tables) (fun a b => b = a) (session (.shows now) q)
        (session (.shows now) q) := fun hq =>
    Session.lockstep_of_looksInto (session_asks (.shows now) (fun _ _ _ => trivial) hq)
  cases q with
  | enroll e => exact enroll_lockstep hnow e
  | notify n => exact notify_lockstep n
  | withdraw types target targetId => exact withdraw_lockstep types target targetId
  | log e => exact log_lockstep e
  | save s => exact (Session.lockstep_execute _ _).bind fun _ _ _ => .done rfl
  | _ => exact hlooks trivial

end Store
end EditorialDesk
