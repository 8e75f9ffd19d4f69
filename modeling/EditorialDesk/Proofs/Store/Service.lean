import EditorialDesk.Proofs.Store.Register
import EditorialDesk.Store.Register

/-!
# How the database serves the intake

The contract of the requests, as the database serves them: the directory answers as it
stood at first, and everything that is written is told by its deeds. What a plan
guarantees under this contract is guaranteed by its session, wherever queries of the
intake come in between.
-/
namespace EditorialDesk.Store

open Database

/-- What can be asked so that it is answered. -/
def Servable (now : Calendar.Moment) : Request → Prop
  | .group id | .members id _ => id.isName = true
  | .assignments query => query.stage = none
  | .notify notice => notice.userId.isName = true
  | .withdraw types .. => types ≠ []
  | .log event => ∃ entry, LogEntry.ofEvent none now event = .accepted entry
  | .save x => x.progress = 0 ∧ ∃ date, x.dateSubmitted = some date
  | .groupsForStage .. | .groupsForUser .. | .subEditors .. | .managers _ | .enroll _ => True

/-- The answer to a request that is put in a state `s` and answered in a state `t`, and its
deeds. -/
def Served (now : Calendar.Moment) (base s : Database) :
    (q : Request) → q.Answer → List Deed → (t : Database) → Prop
  | .groupsForStage contextId stage, r, ds, _ =>
    r = base.groupsForStage contextId stage ∧ ds = []
  | .groupsForUser userId contextId, r, ds, _ => r = base.groupsForUser userId contextId ∧ ds = []
  | .group id, r, ds, _ => r = base.group? id ∧ ds = []
  | .members groupId contextId, r, ds, _ =>
    r = (base.members groupId contextId).map .text ∧ ds = []
  | .subEditors grouping contextId, r, ds, _ =>
    r = (base.subEditors grouping contextId).map .text ∧ ds = []
  | .managers contextId, r, ds, _ => r = (base.managers contextId).map .text ∧ ds = []
  | .assignments query, r, ds, t => ds = [] ∧
    ∀ a ∈ r, a.seat.labels ∈ seats (t.rows Table.stageAssignments) ∧
      a.seat.submissionId = query.submissionId.label
  | .enroll e, r, ds, t => ∃ place : Option Nat,
    r = place.map (assignmentAt now e) ∧ ds = [.enrolls now e place] ∧
      (place ≠ none → seatOf e ∉ seats (s.rows Table.stageAssignments)) ∧
      seatOf e ∈ seats (t.rows Table.stageAssignments)
  | .notify n, _, ds, _ => ∃ place : Option Nat, ds = [.notifies now n place] ∧
    (place = none ↔ base.orphans.any (·.alike n.userId) = true)
  | .withdraw types target targetId, _, ds, _ => ds = [.withdraws types target targetId]
  | .log e, _, ds, _ => ∃ place : Nat, ds = Deed.logs now e place
  | .save x, _, ds, _ => ds = [.saves x]

/-- The contract of the requests on a database that has come from a first state. -/
def serving (now : Calendar.Moment) (base : Database) :
    Contract Request Request.Answer Database Deed where
  may := Servable now
  answers s q r ds t := Later s t ∧ Served now base s q r ds t

variable {now : Calendar.Moment} {base s : Database}

/-- Reading the directory serves a request that it answers. -/
lemma serves_of_reads {q : Request} {a : q.Answer} {p : Session q.Answer}
    (hp : p.Reads base a) (hs : Later base s)
    (h : ∀ t, Served now base s q a [] t) :
    p.Meets overlapping s fun r ds t => (serving now base).answers s q r ds t ∧ Later base t :=
  (hp s hs).mono fun r ds t ⟨hr, hds, ht⟩ => by
    subst hr hds
    exact ⟨⟨ht, h t⟩, hs.trans ht⟩

theorem session_meets (hbase : base.Sound) (hnow : now.offset = some .utc) {q : Request}
    (hq : Servable now q) (hs : Later base s) :
    (session (.shows now) q).Meets overlapping s fun r ds t =>
      (serving now base).answers s q r ds t ∧ Later base t := by
  have hplain := hs.plain hbase.toPlain
  cases q with
  | groupsForStage contextId stage =>
    exact serves_of_reads (reads_groupsForStage hbase.toPlain (haveRoles_of_sound hbase _ _)) hs
      fun _ => ⟨rfl, rfl⟩
  | groupsForUser userId contextId =>
    exact serves_of_reads (reads_groupsForUser hbase.toPlain (haveRoles_of_sound hbase _ _)) hs
      fun _ => ⟨rfl, rfl⟩
  | group id =>
    exact serves_of_reads (reads_group? hbase.toPlain hq (haveRoles_of_sound hbase _ _)) hs
      fun _ => ⟨rfl, rfl⟩
  | members groupId contextId =>
    exact serves_of_reads (reads_members hbase.toPlain hq (haveRoles_of_sound hbase _ _) contextId)
      hs fun _ => ⟨rfl, rfl⟩
  | subEditors grouping contextId =>
    exact serves_of_reads (reads_subEditors hbase.toPlain grouping contextId) hs
      fun _ => ⟨rfl, rfl⟩
  | managers contextId =>
    exact serves_of_reads (reads_managers hbase.toPlain contextId) hs fun _ => ⟨rfl, rfl⟩
  | assignments query =>
    exact (assignments_meets (hs.sound hbase) hq).mono
      fun r ds t ⟨ht, h⟩ => ⟨⟨ht, h⟩, hs.trans ht⟩
  | enroll e =>
    exact (enroll_meets hplain hnow e).mono fun r ds t ⟨ht, h⟩ => ⟨⟨ht, h⟩, hs.trans ht⟩
  | notify n =>
    refine (notify_meets hplain hq).mono fun r ds t ⟨ht, h⟩ => ⟨⟨ht, ?_⟩, hs.trans ht⟩
    rwa [hs.orphans] at h
  | withdraw types target targetId =>
    exact (withdraw_meets hplain hq target targetId).mono
      fun r ds t ⟨ht, h⟩ => ⟨⟨ht, h⟩, hs.trans ht⟩
  | log e => exact (log_meets hplain hq).mono fun r ds t ⟨ht, h⟩ => ⟨⟨ht, h⟩, hs.trans ht⟩
  | save x =>
    obtain ⟨hx, date, hdate⟩ := hq
    exact (save_meets hplain hx hdate).mono fun r ds t ⟨ht, h⟩ => ⟨⟨ht, h⟩, hs.trans ht⟩

/-- What a plan guarantees under the contract of the requests, its session guarantees. -/
theorem sessionOf_meets {α : Type} {plan : Plan α} {post : α → List Deed → Database → Prop}
    (hbase : base.Sound) (hnow : now.offset = some .utc) (hs : Later base s)
    (hplan : plan.Meets (serving now base) s post) :
    (sessionOf (.shows now) plan).Meets overlapping s post :=
  (hplan.via (fun _ _ hq ht => session_meets hbase hnow hq ht) hs).mono fun _ _ _ h => h.1

end EditorialDesk.Store
