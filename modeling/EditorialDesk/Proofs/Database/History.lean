import EditorialDesk.Proofs.Database.Effect
import EditorialDesk.Proofs.Program.Contract
import EditorialDesk.Store.Directory
import EditorialDesk.Store.Register

/-!
# What the queries of the intake lead to

The intake reads every table, but it writes few: it adds assignments that can be read
back, notifications and log entries, it deletes notifications, and it dates submissions.
Whatever such queries come in between, a later state of the database has the directory
of the earlier one and all its assignments. A session is specified against any later
states in which its queries may find the database, and its deeds are the queries that
can have written something.
-/
namespace EditorialDesk

/-- The tables that say who belongs where; nothing in the intake writes them. -/
def Table.directory : List String :=
  [userGroups, userGroupStages, memberships, subEditors]

/-- A row of the table of assignments that can be read. -/
def Fields.IsAssignment (row : Row) : Prop := ∃ a, Store.assignmentOf row = .ok a

/-- A plain database in which every group has a role and every assignment can be read. -/
structure Database.Sound (db : Database) : Prop extends db.Plain where
  roles : ∀ row ∈ db.rows Table.userGroups, ∃ role, Store.roleOf row = .ok role
  assignments : ∀ row ∈ db.rows Table.stageAssignments, Fields.IsAssignment row

/-- A change of a submission's row: it keeps the identity, and it finalizes the submission or leaves
the columns alone that say whether it is. -/
def Fields.IsAdvance (patch : Row) : Prop :=
  (patch.map (·.1)).Nodup ∧ patch.get? "id" = none ∧
    (patch.get? "submission_progress" = none ∧ patch.get? "date_submitted" = none ∨
      patch.get? "submission_progress" = some (.int 0) ∧
        ∃ date, patch.get? "date_submitted" = some (.text date))

/-- The queries of the intake. -/
def Call.IsOfIntake : Call → Prop
  | .select .. => True
  | .insert table row =>
    table = Table.stageAssignments ∧ (∀ n, Fields.IsAssignment (Database.identified table n row)) ∨
      table = Table.notifications ∧ (row.get "user_id").isName = true ∨ table = Table.eventLog
  | .update table patch _ => table = Table.submissions ∧ Fields.IsAdvance patch
  | .delete table _ => table = Table.notifications

/-- A query that can have written something, and the row that it stored if it did. -/
structure Deed where
  call : Call
  stored : Option Row

namespace Database

variable {db db' mid : Database} {ds es : List Deed}

/-- What a state of the database has in common with every later one. -/
structure Later (db db' : Database) : Prop where
  frame : ({ db with tables := db'.tables, calls := db'.calls } : Database) = db'
  directory : ∀ table ∈ Table.directory, db'.rows table = db.rows table
  assignments : db.rows Table.stageAssignments <+: db'.rows Table.stageAssignments
  readable : ∀ row ∈ db'.rows Table.stageAssignments,
    row ∈ db.rows Table.stageAssignments ∨ Fields.IsAssignment row

theorem Later.refl (db : Database) : Later db db where
  frame := rfl
  directory _ _ := rfl
  assignments := List.prefix_rfl
  readable _ h := .inl h

theorem Later.trans (h : Later db mid) (h' : Later mid db') : Later db db' where
  frame := by rw [← h'.frame, ← h.frame]
  directory t ht := (h'.directory t ht).trans (h.directory t ht)
  assignments := h.assignments.trans h'.assignments
  readable row hrow := (h'.readable row hrow).elim (h.readable row) .inr

theorem Later.plain (h : Later db db') (hdb : db.Plain) : db'.Plain := hdb.of_frame h.frame

theorem Later.orphans (h : Later db db') : db'.orphans = db.orphans := by rw [← h.frame]

theorem Later.sound (h : Later db db') (hdb : db.Sound) : db'.Sound where
  toPlain := h.plain hdb.toPlain
  roles row hrow := hdb.roles row (h.directory Table.userGroups (by decide) ▸ hrow)
  assignments row hrow := (h.readable row hrow).elim (hdb.assignments row) id

theorem later_note (db : Database) (c : Call) : Later db (db.note c) where
  frame := rfl
  directory _ _ := rfl
  assignments := List.prefix_rfl
  readable _ h := .inl h

end Database

theorem Call.IsOfIntake.isNamed {c : Call} (hc : c.IsOfIntake) : Database.IsNamed c := by
  cases c with
  | insert table row =>
    intro ht
    rcases hc with ⟨rfl, _⟩ | ⟨_, hrow⟩ | rfl
    · exact absurd ht (by decide)
    · exact hrow
    · exact absurd ht (by decide)
  | _ => trivial

/-- No query of the intake writes a table of the directory. -/
theorem Call.IsOfIntake.effect_directory {c : Call} (hc : c.IsOfIntake) (orphans : List Value)
    (ht : c.table ∈ Table.directory) (rows : List Row) :
    Database.effect orphans rows c = rows := by
  cases c with
  | select t filters order => rfl
  | insert t row =>
    rcases hc with ⟨rfl, _⟩ | ⟨rfl, _⟩ | rfl
    · exact absurd ht (show Table.stageAssignments ∉ Table.directory by decide)
    · exact absurd ht (show Table.notifications ∉ Table.directory by decide)
    · exact absurd ht (show Table.eventLog ∉ Table.directory by decide)
  | update t patch filters =>
    obtain ⟨rfl, _⟩ := hc
    exact absurd ht (show Table.submissions ∉ Table.directory by decide)
  | delete t filters =>
    obtain rfl := hc
    exact absurd ht (show Table.notifications ∉ Table.directory by decide)

/-- What a query of the intake does to the table of assignments: nothing, or it adds one that can
be read. -/
theorem Call.IsOfIntake.effect_assignments {c : Call} (hc : c.IsOfIntake)
    (ht : Table.stageAssignments = c.table) (orphans : List Value) (rows : List Row) :
    Database.effect orphans rows c = rows ∨
      ∃ row, Fields.IsAssignment row ∧ Database.effect orphans rows c = rows ++ [row] := by
  cases c with
  | select t filters order => exact .inl rfl
  | insert t row =>
    obtain rfl : Table.stageAssignments = t := ht
    have hrow : ∀ n, Fields.IsAssignment (Database.identified Table.stageAssignments n row) := by
      rcases hc with ⟨_, h⟩ | ⟨h, _⟩ | h
      · exact h
      · exact absurd h (by decide)
      · exact absurd h (by decide)
    simp only [Database.effect]
    split
    · exact .inl rfl
    · exact .inr ⟨_, hrow _, rfl⟩
  | update t patch filters => exact absurd (ht.trans hc.1) (by decide)
  | delete t filters => exact absurd (ht.trans hc) (by decide)

namespace Database

variable {db db' mid : Database} {ds es : List Deed}

/-- A query of the intake leads to a later state. -/
theorem Plain.later_perform (h : db.Plain) {c : Call} (hc : c.IsOfIntake) :
    Later db (db.perform c).2 := by
  have hrows := h.rows_perform hc.isNamed
  refine ⟨h.perform_frame hc.isNamed, fun t ht => ?_, ?_, fun row hrow => ?_⟩
  · rw [hrows]
    split
    · next hct => exact hc.effect_directory _ (hct ▸ ht) _
    · rfl
  · rw [hrows]
    split
    · next ht =>
      obtain he | ⟨row, -, he⟩ := hc.effect_assignments ht db.orphans (db.rows _)
      · exact ⟨[], by rw [he, List.append_nil]⟩
      · exact ⟨_, he.symm⟩
    · exact List.prefix_rfl
  · rw [hrows] at hrow
    split at hrow
    · next ht =>
      obtain he | ⟨new, hnew, he⟩ := hc.effect_assignments ht db.orphans (db.rows _)
      · rw [he] at hrow
        exact .inl hrow
      · rw [he, List.mem_append, List.mem_singleton] at hrow
        rcases hrow with hold | rfl
        · exact .inl hold
        · exact .inr hnew
    · exact .inl hrow

/-- The row in the answer to an insert. -/
def storedBy : (c : Call) → Except CallFault c.Answer → Option Row
  | .insert .., .ok (.list [.object row]) => some row
  | _, _ => none

/-- What a query counts as: nothing if it only reads. -/
def deeds (db : Database) (c : Call) : List Deed :=
  match c with
  | .select .. => []
  | c => [⟨c, storedBy c (db.perform c).1⟩]

/-- Queries of the intake lead from one state to another, and these are their deeds. Others may
have failed in between without effect. -/
inductive Leads : Database → List Deed → Database → Prop
  | refl (db : Database) : Leads db [] db
  | step {db db' : Database} {c : Call} {ds : List Deed} :
    c.IsOfIntake → Leads (db.perform c).2 ds db' → Leads db (db.deeds c ++ ds) db'
  | failed {db db' : Database} {c : Call} {ds : List Deed} :
    Leads (db.note c) ds db' → Leads db ds db'

theorem Leads.trans (h : Leads db ds mid) (h' : Leads mid es db') : Leads db (ds ++ es) db' := by
  induction h with
  | refl db => exact h'
  | step hc _ ih => rw [List.append_assoc]; exact .step hc (ih h')
  | failed _ ih => exact .failed (ih h')

theorem Leads.perform {c : Call} (hc : c.IsOfIntake) (db : Database) :
    Leads db (db.deeds c) (db.perform c).2 := by
  simpa using Leads.step hc (.refl (db.perform c).2)

theorem Leads.later (h : Leads db ds db') (hdb : db.Plain) : Later db db' := by
  induction h with
  | refl db => exact .refl db
  | step hc _ ih =>
    have hl := hdb.later_perform hc
    exact hl.trans (ih (hl.plain hdb))
  | failed _ ih => exact (later_note _ _).trans (ih (hdb.note _))

lemma Leads.isOfIntake (h : Leads db ds db') : ∀ d ∈ ds, d.call.IsOfIntake := by
  induction h with
  | refl db => simp
  | @step db db' c ds hc _ ih =>
    intro d hd
    rcases List.mem_append.1 hd with hd | hd
    · cases c with
      | select t filters order => simp [deeds] at hd
      | _ =>
        obtain rfl := List.mem_singleton.1 hd
        exact hc
    · exact ih d hd
  | failed _ ih => exact ih

/-- What deeds make of the rows of a table. -/
def replay (orphans : List Value) (table : String) (rows : List Row) (ds : List Deed) : List Row :=
  ds.foldl (fun rows d => if table = d.call.table then effect orphans rows d.call else rows) rows

lemma replay_append (orphans : List Value) (table : String) (rows : List Row)
    (ds es : List Deed) :
    replay orphans table rows (ds ++ es) =
      replay orphans table (replay orphans table rows ds) es :=
  List.foldl_append

/-- The deeds tell what has become of every table. -/
theorem Leads.rows_eq (h : Leads db ds db') (hdb : db.Plain) (table : String) :
    db'.rows table = replay db.orphans table (db.rows table) ds := by
  induction h with
  | refl db => rfl
  | @step db db' c ds hc _ ih =>
    have hl := hdb.later_perform hc
    rw [ih (hl.plain hdb), hl.orphans, hdb.rows_perform hc.isNamed, replay_append]
    congr 1
    cases c with
    | select t filters order => simp [deeds, replay, effect]
    | _ => rfl
  | failed _ ih => exact ih (hdb.note _)

lemma Leads.split (h : Leads db (ds ++ es) db') : ∃ mid, Leads db ds mid ∧ Leads mid es db' := by
  generalize hall : ds ++ es = all at h
  induction h generalizing ds with
  | refl db =>
    obtain ⟨rfl, rfl⟩ := List.append_eq_nil_iff.1 hall
    exact ⟨db, .refl db, .refl db⟩
  | @step db db' c rest hc hrest ih =>
    by_cases hds : ds = []
    · subst hds
      rw [List.nil_append] at hall
      exact ⟨db, .refl db, hall ▸ .step hc hrest⟩
    · obtain ⟨ds', rfl⟩ : ∃ ds', ds = db.deeds c ++ ds' := by
        cases c with
        | select t filters order => exact ⟨ds, rfl⟩
        | _ =>
          cases ds with
          | nil => exact absurd rfl hds
          | cons d tail => exact ⟨tail, by rw [(List.cons.inj hall).1]; rfl⟩
      rw [List.append_assoc] at hall
      obtain ⟨mid, hmid, hes⟩ := ih (List.append_cancel_left hall)
      exact ⟨mid, .step hc hmid, hes⟩
  | failed _ ih =>
    obtain ⟨mid, hmid, hes⟩ := ih hall
    exact ⟨mid, .failed hmid, hes⟩

/-- Queries as they are answered where others of the intake come in between: each finds some later
state of the database. -/
def overlapping : Contract Call (fun c => Except CallFault c.Answer) Database Deed where
  may := Call.IsOfIntake
  answers db c r ds db' :=
    ∃ mid, Later db mid ∧ r = (mid.perform c).1 ∧ ds = mid.deeds c ∧ db' = (mid.perform c).2

/-- A session that runs alone meets what it guarantees where others come in between. -/
theorem run_of_meets {α : Type} {p : Session α} {post : α → List Deed → Database → Prop}
    (hp : p.Meets overlapping db post) :
    ∃ a ds db', p.run db = (.ok a, db') ∧ post a ds db' ∧ Leads db ds db' := by
  unfold Session.run
  induction p generalizing db post with
  | done a => exact ⟨a, [], db, rfl, hp, .refl db⟩
  | fault e => exact hp.elim
  | ask c next ih =>
    obtain ⟨a, ds, db', hrun, hpost, hleads⟩ := ih _ (hp.2 _ _ _ ⟨db, .refl db, rfl, rfl, rfl⟩)
    exact ⟨a, db.deeds c ++ ds, db', hrun, hpost, .step hp.1 hleads⟩

end Database
end EditorialDesk
