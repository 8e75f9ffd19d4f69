import EditorialDesk.Proofs.Intake.Enrollment
import EditorialDesk.Proofs.Intake.Repetition
import EditorialDesk.Proofs.Store.SteadyDatabase
import EditorialDesk.Proofs.Store.SteadyMemory

/-!
# Running the intake again

Both stores are steady, whatever they hold, so that a run which has come to an outcome can
be repeated on them at any later moment. It comes to the same outcome but enrols nobody,
and leaves everything as it is apart from notifications.
-/
namespace EditorialDesk.Intake

open Database Store

/-- A plan that is carried out on the database meets with each request's session in turn. -/
lemma run_sessionOf {α : Type} (clock : Reading Calendar.Moment) (plan : Plan α) (db : Database) :
    (sessionOf clock plan).run db = plan.run (fun q db => (session clock q).run db) db := by
  induction plan generalizing db with
  | done a => rfl
  | fault e => rfl
  | ask q next ih =>
    unfold Session.run sessionOf at ih ⊢
    rw [Program.via, Program.run_bind, Program.run]
    rcases Program.run _ (session clock q) db with ⟨e | a, mid⟩
    · rfl
    · exact ih a mid

/-- A run on the store in memory. -/
def runInMemory (logs : Bool) (s : Submission) (submitter : Value) (k : UtcMoment) (m : Memory) :
    Except Fault Outcome × Memory :=
  (run logs s submitter).run (Memory.serve (.shows k)) m

/-- A run on the database. -/
def runInDatabase (logs : Bool) (s : Submission) (submitter : Value) (k : UtcMoment)
    (db : Database) : Except Fault Outcome × Database :=
  (sessionOf (.shows k) (run logs s submitter)).run db

/-- After a run with an outcome, on either store, every further run at any moment has the same
outcome but that it enrols nobody. Assignments and log stay as they are in memory, and in the
database all tables but that of notifications. -/
theorem run_idempotent (logs : Bool) (s : Submission) (submitter : Value) :
    (∀ m : Memory, m.Sound → ∀ (k : UtcMoment) (o : Outcome) (m' : Memory),
      runInMemory logs s submitter k m = (.ok o, m') →
      ∀ ks, ∀ r ∈ successive (runInMemory logs s submitter) ks m',
        r.1 = .ok { o with created := [] } ∧
          r.2.assignments = m'.assignments ∧ r.2.events = m'.events) ∧
    ∀ db : Database, db.Certain → ∀ (k : UtcMoment) (o : Outcome) (db' : Database),
      runInDatabase logs s submitter k db = (.ok o, db') →
      ∀ ks, ∀ r ∈ successive (runInDatabase logs s submitter) ks db',
        r.1 = .ok { o with created := [] } ∧
          ∀ table ≠ Table.notifications, r.2.rows table = db'.rows table := by
  constructor
  · intro m hm k o m' hrun ks r hr
    obtain ⟨o', rfl, hfurther⟩ :=
      (run_repeats (x := steadyMemory) hm logs s submitter).further hm hrun
    obtain ⟨hresult, hidle⟩ := hfurther ks r hr
    exact ⟨hresult, hidle.assignments, hidle.events⟩
  · intro db hdb k o db' hrun ks r hr
    have hserve : runInDatabase logs s submitter =
        fun k => (run logs s submitter).run (steadyDatabase.serve k) :=
      funext fun k => funext fun db => run_sessionOf (.shows k) _ db
    rw [hserve] at hrun hr
    obtain ⟨o', rfl, hfurther⟩ :=
      (run_repeats (x := steadyDatabase) hdb logs s submitter).further hdb hrun
    obtain ⟨hresult, hstill⟩ := hfurther ks r hr
    exact ⟨hresult, hstill.rows⟩

/-- The small office in memory. -/
def cabinet : Memory where
  rosters := [⟨⟨"g-1", "ctx-1", .manager, "", false, [.intake]⟩, [.text "u-1"]⟩,
    ⟨⟨"g-2", "ctx-1", .subEditor, "", false, []⟩, [.text "u-2"]⟩]
  bindings := [⟨⟨.journalSection, .text "sec-1"⟩, .text "u-2"⟩]
  assignments := []
  attempts := []
  emitted := []
  withdrawn := []
  events := []
  outages := []

lemma cabinet_made : cabinet.Made :=
  .bind (.addRoster (.addRoster .empty ⟨⟨"g-1", "ctx-1", .manager, "", false, [.intake]⟩,
    [.text "u-1"]⟩) ⟨⟨"g-2", "ctx-1", .subEditor, "", false, []⟩, [.text "u-2"]⟩)
    (b := ⟨⟨.journalSection, .text "sec-1"⟩, .text "u-2"⟩) rfl

lemma office_certain : office.Certain where
  unreadable := rfl
  unique := rfl
  scripts _ hs := absurd hs List.not_mem_nil
  groupIds := by decide

/-- The manager of the small office submits a paper; a second run enrols nobody, in memory and in
the database. -/
theorem office_idempotent : cabinet.Sound ∧ office.Certain ∧
    (∃ o m', runInMemory true paper (.text "u-1") ⟨dawn, rfl⟩ cabinet = (.ok o, m') ∧
      o.created.length = 2 ∧
      ∀ r ∈ successive (runInMemory true paper (.text "u-1")) [⟨dawn, rfl⟩] m',
        r.1 = .ok { o with created := [] } ∧ r.2.assignments = m'.assignments) ∧
    ∃ o db', runInDatabase true paper (.text "u-1") ⟨dawn, rfl⟩ office = (.ok o, db') ∧
      ∀ r ∈ successive (runInDatabase true paper (.text "u-1")) [⟨dawn, rfl⟩] db',
        r.1 = .ok { o with created := [] } ∧
          r.2.rows Table.stageAssignments = db'.rows Table.stageAssignments := by
  have hcabinet : cabinet.Sound := cabinet_made.sound
  have hagain := run_idempotent true paper (.text "u-1")
  obtain ⟨o, m', hmemory, hcreated⟩ : ∃ o m',
      runInMemory true paper (.text "u-1") ⟨dawn, rfl⟩ cabinet = (.ok o, m') ∧
        o.created.length = 2 := ⟨_, _, rfl, rfl⟩
  obtain ⟨p, db', hdatabase⟩ : ∃ p db',
      runInDatabase true paper (.text "u-1") ⟨dawn, rfl⟩ office = (.ok p, db') := by
    have hdawn : dawn.offset = some .utc := rfl
    obtain ⟨p, -, db', hrun, -, -⟩ :=
      run_alone office_wellFormed.sound hdawn true paper (.text "u-1")
    exact ⟨p, db', hrun⟩
  refine ⟨hcabinet, office_certain, ⟨o, m', hmemory, hcreated, fun r hr => ?_⟩,
    p, db', hdatabase, fun r hr => ?_⟩
  · obtain ⟨hresult, hassignments, -⟩ :=
      hagain.1 cabinet hcabinet ⟨dawn, rfl⟩ o m' hmemory [⟨dawn, rfl⟩] r hr
    exact ⟨hresult, hassignments⟩
  · obtain ⟨hresult, hrows⟩ :=
      hagain.2 office office_certain ⟨dawn, rfl⟩ p db' hdatabase [⟨dawn, rfl⟩] r hr
    exact ⟨hresult, hrows _ (by decide)⟩

end EditorialDesk.Intake
