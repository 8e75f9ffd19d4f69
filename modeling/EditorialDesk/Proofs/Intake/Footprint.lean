import EditorialDesk.Proofs.Intake.Conduct
import EditorialDesk.Proofs.Intake.Enrollment
import EditorialDesk.Proofs.Store.Scope

/-!
# The footprint of the operations

What a history of operations leaves behind. Runs of the routine, submissions finalized,
single enrolments, notifications, withdrawals and entries follow each other in any order,
each of them for any submission, and any of their queries may fail. After each operation,
whether it has a result or a fault, only what is in its scope has changed.
-/
namespace EditorialDesk

/-- The runs of a plan on a database in which any query may fail without effect: the result and the
database that they end with. Every request sees the clock for itself. -/
inductive Plan.Runs {α : Type} : Plan α → Database → Except Fault α → Database → Prop
  | done (a : α) (db : Database) : Runs (.done a) db (.ok a) db
  | fault (e : Fault) (db : Database) : Runs (.fault e) db (.error e) db
  | answered {q : Request} {next : q.Answer → Plan α} {db mid db' : Database} {a : q.Answer}
      {r : Except Fault α} (clock : Reading Calendar.Moment)
      (served : (Store.session clock q).Runs db (.ok a) mid) (rest : Runs (next a) mid r db') :
      Runs (.ask q next) db r db'
  | refused {q : Request} {next : q.Answer → Plan α} {db db' : Database} {e : Fault}
      (clock : Reading Calendar.Moment) (served : (Store.session clock q).Runs db (.error e) db') :
      Runs (.ask q next) db (.error e) db'

namespace Plan

open Database Store

variable {α : Type} {plan : Plan α} {db db' : Database} {r : Except Fault α} {x : Scope}

/-- The run of a plan as one session, in which every query is performed. -/
lemma runs_sessionOf (clock : Reading Calendar.Moment) (plan : Plan α) (db : Database) :
    plan.Runs db ((sessionOf clock plan).run db).1 ((sessionOf clock plan).run db).2 := by
  induction plan generalizing db with
  | done a => exact .done a db
  | fault e => exact .fault e db
  | ask q next ih =>
    have hserved := Session.runs_run (session clock q) db
    unfold Session.run sessionOf at ih ⊢
    unfold Session.run at hserved
    rw [Program.via, Program.run_bind]
    revert hserved
    rcases Program.run _ (session clock q) db with ⟨e | a, mid⟩
    · exact fun hserved => .refused clock hserved
    · exact fun hserved => .answered clock hserved (ih a mid)

/-- A plan whose requests are within a scope changes nothing outside of it, however it ends. -/
theorem Runs.within (h : plan.Runs db r db') (hplan : plan.Asks fun q => q.scope ≤ x)
    (hx : ∀ row, x.sends row → row.IsMarked) (hdb : db.IsTidy) :
    db'.IsTidy ∧ Within x db db' := by
  have hrequest : ∀ {q : Request} {clock : Reading Calendar.Moment} {db mid : Database}
      {result : Except Fault q.Answer}, (session clock q).Runs db result mid → q.scope ≤ x →
      db.IsTidy → mid.IsTidy ∧ Within x db mid := by
    intro q clock db mid result hserved hq hdb
    obtain ⟨hmid, hwithin⟩ := hserved.within (session_within clock q)
      (fun row hrow => hx row (hq.2.2 row hrow)) hdb
    exact ⟨hmid, hwithin.mono hq⟩
  induction h with
  | done a db => exact ⟨hdb, within_of_rows_eq x fun _ => rfl⟩
  | fault e db => exact ⟨hdb, within_of_rows_eq x fun _ => rfl⟩
  | answered clock served _ ih =>
    obtain ⟨hmid, hstep⟩ := hrequest served hplan.1 hdb
    obtain ⟨hend, hrest⟩ := ih (hplan.2 _) hmid
    exact ⟨hend, hstep.trans hrest⟩
  | refused clock served => exact hrequest served hplan.1 hdb

end Plan

namespace Intake

open Database Store Program

/-- What the intake of a submission may change. -/
def intakeScope (submissionId : String) : Scope where
  dates id := id = submissionId
  withdraws := Fields.IsNoticeOf (.approveSubmission :: NotificationType.pendingDecisions)
    .submission submissionId
  sends := Fields.IsNoticeOf sentTypes .submission submissionId

variable {logs notes : Bool} {s : Submission} {p : Progress}

/-- The requests of the intake of a submission. -/
def AsksWithin {α : Type} (s : Submission) (plan : Plan α) : Prop :=
  plan.Asks fun q => q.scope ≤ intakeScope s.id

lemma asksWithin_lookup {q : Request} (hq : q.scope = Scope.narrow) :
    AsksWithin s (Program.request q : Plan q.Answer) :=
  asks_request (hq ▸ Scope.narrow_le _)

lemma asksWithin_log {event : Event} (hevent : event.submissionId = .text s.id) :
    AsksWithin s (Plan.log event) := by
  refine asks_request (Scope.dates_le fun id hid => ?_)
  have hid' : id = event.submissionId.label := hid
  rw [hid', hevent, Value.label_text]
  rfl

lemma enroll_asksWithin (g : UserGroup) (userId : Value) (recommendOnly : Bool) :
    AsksWithin s (enroll logs s p g userId recommendOnly) := by
  unfold enroll
  refine (asks_ofExcept _).bind fun u => ?_
  dsimp only
  split
  · exact asks_pure p
  · refine (asksWithin_lookup rfl).bind fun answer => ?_
    cases answer with
    | none => exact asks_pure _
    | some a =>
      dsimp only
      split
      · exact (asksWithin_log rfl).bind fun _ => asks_pure _
      · exact asks_pure _

lemma enrollSingleton_asksWithin (g : UserGroup) :
    AsksWithin s (enrollSingleton logs s p g) := by
  unfold enrollSingleton
  split
  · refine (asksWithin_lookup rfl).bind fun members => ?_
    split
    · exact (enroll_asksWithin g _ _).bind fun _ => asks_pure _
    · exact asks_pure p
  · exact asks_pure p

lemma enrollSingletons_asksWithin : AsksWithin s (enrollSingletons logs s p) :=
  (asksWithin_lookup rfl).bind fun _ =>
    asks_foldlM (fun _ g _ => enrollSingleton_asksWithin g) p

lemma carryFirstAuthor_asksWithin (existing : List StageAssignment) :
    AsksWithin s (carryFirstAuthor logs s p existing) := by
  induction existing with
  | nil => exact asks_pure p
  | cons a rest ih =>
    refine (asksWithin_lookup rfl).bind fun found => ?_
    cases found with
    | none => exact ih
    | some g =>
      dsimp only
      split
      · exact enroll_asksWithin g _ _
      · exact ih

lemma carrySubmitter_asksWithin (submitter : Value) :
    AsksWithin s (carrySubmitter logs s submitter p) := by
  unfold carrySubmitter
  split
  · exact (asksWithin_lookup rfl).bind fun existing => carryFirstAuthor_asksWithin existing
  · exact asks_pure p

lemma candidates_asksWithin : AsksWithin s (candidates s) := by
  refine asks_foldlM (fun found grouping _ => ?_) []
  refine (asksWithin_lookup rfl).bind fun users => asks_foldlM (fun found userId _ => ?_) found
  refine (asksWithin_lookup rfl).bind fun groups => ?_
  split
  · exact asks_pure found
  · exact (asks_ofExcept _).bind fun _ => asks_pure _

lemma enrollSubEditors_asksWithin : AsksWithin s (enrollSubEditors logs s p) :=
  candidates_asksWithin.bind fun _ =>
    asks_foldlM (fun _ c _ => (enroll_asksWithin c.group c.userId _).bind fun _ => asks_pure _) p

lemma notifyAll_asksWithin {type : NotificationType} (htype : type ∈ sentTypes)
    (level : NotificationLevel) (users : List Value) :
    AsksWithin s (notifyAll s type level users) := by
  induction users with
  | nil => exact asks_pure []
  | cons userId rest ih =>
    rw [notifyAll]
    refine asks_ofExcept_bind fun r hr => ?_
    obtain ⟨-, hrequest⟩ := requestFor_eq_ok hr
    have hscope : (Request.notify r.notice).scope ≤ intakeScope s.id := by
      refine Scope.sends_le fun row hrow => ?_
      rw [hrequest] at hrow
      exact ⟨⟨type, htype, hrow.1⟩, hrow.2.1, hrow.2.2⟩
    have hnotify : AsksWithin s (Plan.notify r.notice) := asks_request hscope
    exact hnotify.bind fun _ => ih.bind fun _ => asks_pure _

/-- A withdrawal of some of the kinds that the intake withdraws. -/
lemma asksWithin_withdraw {types : List NotificationType}
    (htypes : types ⊆ .approveSubmission :: NotificationType.pendingDecisions) :
    AsksWithin s (Plan.withdraw types .submission (.text s.id)) :=
  asks_request (Scope.withdraws_le fun _ hrow => hrow.mono htypes)

lemma route_asksWithin (created : List StageAssignment) (notify : List String) :
    AsksWithin s (route s created notify) := by
  have hclose : AsksWithin s (Plan.withdraw [.approveSubmission] .submission (.text s.id)) :=
    asksWithin_withdraw (by simp)
  refine (asksWithin_withdraw (List.subset_cons_self _ _)).bind fun _ => ?_
  dsimp only
  split
  · refine (asksWithin_lookup rfl).bind fun managers => (asks_ofExcept _).bind fun users => ?_
    refine (notifyAll_asksWithin (by decide) _ _).bind fun sent => ?_
    simp only [pure_bind]
    exact hclose.bind fun _ => asks_pure _
  · refine (notifyAll_asksWithin (by decide) _ _).bind fun sent => ?_
    simp only [pure_bind]
    exact hclose.bind fun _ => asks_pure _

/-- All requests of a run are within the intake of its submission. -/
theorem run_asksWithin (logs : Bool) (s : Submission) (submitter : Value) :
    AsksWithin s (run logs s submitter) :=
  enrollSingletons_asksWithin.bind fun _ => (carrySubmitter_asksWithin submitter).bind fun _ =>
    enrollSubEditors_asksWithin.bind fun _ => (asks_ofExcept _).bind fun _ => route_asksWithin _ _

theorem finalize_asksWithin (logs notes : Bool) (clock : Reading Calendar.Moment)
    (s : Submission) (submitter : Value) :
    AsksWithin s (finalize logs notes clock s submitter) := by
  unfold finalize
  split
  · refine (asks_ofExcept _).bind fun now => ?_
    have hsave : AsksWithin s (Plan.save (finalizedAt s now)) :=
      asks_request (Scope.dates_le fun _ hid => hid)
    refine hsave.bind fun _ => ?_
    have hrun : AsksWithin s (run logs (finalizedAt s now) submitter) := run_asksWithin logs _ _
    dsimp only
    split
    · exact (asksWithin_log rfl).bind fun _ => hrun.bind fun _ => asks_pure _
    · exact hrun.bind fun _ => asks_pure _
  · split
    · exact (run_asksWithin logs s submitter).bind fun _ => asks_pure _
    · exact asks_pure _

/-- An operation on the database. -/
inductive Errand where
  | run (logs : Bool) (s : Submission) (submitter : Value)
  | finalize (logs notes : Bool) (s : Submission) (submitter : Value)
  | enroll (e : Enrollment)
  | notify (r : NotificationRequest)
  | withdraw (types : List NotificationType) (target : TargetType) (targetId : Value)
  | log (event : Event)

namespace Errand

/-- What the operation results in. -/
def Result : Errand → Type
  | run .. => Outcome
  | finalize .. => Finalized
  | enroll _ => Option StageAssignment
  | notify _ => Option Value
  | withdraw .. => Nat
  | log _ => LogEntry

/-- The operation as a plan. The clock is the one that finalizing looks at. -/
def plan (clock : Reading Calendar.Moment) : (e : Errand) → Plan e.Result
  | run logs s submitter => Intake.run logs s submitter
  | finalize logs notes s submitter => Intake.finalize logs notes clock s submitter
  | enroll e => Plan.enroll? e
  | notify r => Plan.notify r.notice
  | withdraw types target targetId => Plan.withdraw types target targetId
  | log event => Plan.log event

/-- What the operation may change. -/
def scope : Errand → Scope
  | run _ s _ | finalize _ _ s _ => intakeScope s.id
  | enroll _ => .narrow
  | notify r =>
    { Scope.narrow with sends := Fields.IsNoticeOf [r.type] r.targetType r.targetId }
  | withdraw types target targetId =>
    { Scope.narrow with withdraws := Fields.IsNoticeOf types target targetId.label }
  | log event => { Scope.narrow with dates := fun id => id = event.submissionId.label }

lemma plan_asks (clock : Reading Calendar.Moment) (e : Errand) :
    (e.plan clock).Asks fun q => q.scope ≤ e.scope := by
  cases e with
  | run logs s submitter => exact run_asksWithin logs s submitter
  | finalize logs notes s submitter => exact finalize_asksWithin logs notes clock s submitter
  | enroll e => exact asks_request (Scope.narrow_le _)
  | notify r =>
    refine asks_request (Scope.sends_le fun row hrow => ?_)
    exact ⟨⟨r.type, List.mem_singleton_self _, hrow.1⟩, hrow.2⟩
  | withdraw types target targetId => exact asks_request (Scope.withdraws_le fun _ h => h)
  | log event => exact asks_request (Scope.dates_le fun _ h => h)

lemma marked_of_sends (e : Errand) {row : Row} (h : e.scope.sends row) : row.IsMarked := by
  cases e with
  | run | finalize | notify => exact Fields.IsNoticeOf.marked h
  | enroll | withdraw | log => exact h.elim

end Errand

/-- An operation in a history, with the database before and after it. -/
structure Step where
  errand : Errand
  before : Database
  after : Database

/-- The histories of operations on a database, in which any query may fail. An operation that ends
with a fault is followed by the next like any other. -/
inductive Course : Database → List Step → Database → Prop
  | start (db : Database) : Course db [] db
  | step {db mid db' : Database} {steps : List Step} (earlier : Course db steps mid) (e : Errand)
      (clock : Reading Calendar.Moment) {r : Except Fault e.Result}
      (runs : (e.plan clock).Runs mid r db') : Course db (steps ++ [⟨e, mid, db'⟩]) db'

/-- All that any operation may change. -/
def Scope.widest : Scope := ⟨fun _ => True, fun _ => True, fun _ => True⟩

lemma Scope.le_widest (x : Scope) : x ≤ Scope.widest :=
  ⟨fun _ _ => trivial, fun _ _ => trivial, fun _ _ => trivial⟩

lemma Course.within_widest {db db' : Database} {steps : List Step} (h : Course db steps db')
    (hdb : db.IsTidy) : db'.IsTidy ∧ Within Scope.widest db db' := by
  induction h with
  | start => exact ⟨hdb, within_of_rows_eq _ fun _ => rfl⟩
  | step earlier e clock runs ih =>
    obtain ⟨hmid, hbefore⟩ := ih
    obtain ⟨hafter, hstep⟩ := runs.within (e.plan_asks clock) (fun _ => e.marked_of_sends) hmid
    exact ⟨hafter, hbefore.trans (hstep.mono (Scope.le_widest _))⟩

/-- After every operation of a history the database is tidy, only what is in the scope of the
operation has changed by it, and in the history so far nothing that is in no scope. -/
theorem course_footprint {db db' : Database} {steps : List Step} (h : Course db steps db')
    (hdb : db.IsTidy) : ∀ step ∈ steps, step.after.IsTidy ∧
      Within step.errand.scope step.before step.after ∧
      Within Scope.widest db step.after := by
  induction h with
  | start => exact fun _ hstep => absurd hstep List.not_mem_nil
  | step earlier e clock runs ih =>
    intro step hstep
    rcases List.mem_append.1 hstep with hstep | hstep
    · exact ih step hstep
    · obtain ⟨hmid, hbefore⟩ := earlier.within_widest hdb
      obtain ⟨hafter, hwithin⟩ := runs.within (e.plan_asks clock) (fun _ => e.marked_of_sends) hmid
      rw [List.mem_singleton.1 hstep]
      exact ⟨hafter, hwithin, hbefore.trans (hwithin.mono (Scope.le_widest _))⟩

lemma office_isTidy : office.IsTidy where
  unreadable := rfl
  unique := rfl
  seats := List.nodup_nil
  notifications row hrow := by
    obtain rfl := List.mem_singleton.1 hrow
    exact ⟨⟨_, rfl⟩, ⟨_, rfl⟩, ⟨_, rfl⟩⟩

/-- In the small office a run, and then a withdrawal whose query fails, keep to their scopes. -/
theorem office_course : office.IsTidy ∧ ∃ steps db', Course office steps db' ∧
    steps.map (·.errand) = [.run true paper .null,
      .withdraw [.submissionSubmitted] .submission (.text "sub-1")] ∧
    ∀ step ∈ steps, step.after.IsTidy ∧ Within step.errand.scope step.before step.after ∧
      Within Scope.widest office step.after := by
  have hrun : Course office _ _ := .step (.start office) (.run true paper .null) (.shows dawn)
    (Plan.runs_sessionOf (.shows dawn) _ office)
  have hfailed := Course.step hrun (.withdraw [.submissionSubmitted] .submission (.text "sub-1"))
    (.shows dawn) (.refused (.shows dawn) (.failed (.broken "") (.fault _ _)))
  exact ⟨office_isTidy, _, _, hfailed, rfl, course_footprint hfailed office_isTidy⟩

end Intake
end EditorialDesk
