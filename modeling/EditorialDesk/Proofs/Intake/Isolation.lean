import EditorialDesk.Proofs.Intake.Aftermath
import EditorialDesk.Proofs.Intake.Conduct
import EditorialDesk.Proofs.Intake.Idempotence
import EditorialDesk.Proofs.Store.Apart

/-!
# Contexts are isolated from each other

A run asks about the context of its submission only, and about groups that it was told of.
Where the directory has rows of other contexts in between, whoever these name, the run comes
to the same outcome and writes the same.
-/
namespace EditorialDesk.Intake

open Database Store

/-- As long as it is told of no group with a fresh identity, a plan asks about none, and about no
other submission or context. -/
abbrev KeepsTo {α : Type} (s : Submission) (fresh : String → Prop) (plan : Plan α)
    (post : α → Prop) : Prop :=
  plan.Upholds (Request.IsLocal s fresh) (Request.IsClear fresh) post

variable {fresh : String → Prop} {logs : Bool} {s : Submission} {p : Progress}

lemma enroll_keepsTo {g : UserGroup} (hg : ¬ fresh g.id) (userId : Value) (recommendOnly : Bool) :
    KeepsTo s fresh (enroll logs s p g userId recommendOnly) fun _ => True := by
  unfold enroll
  refine Program.upholds_ofExcept_bind fun u _ => ?_
  dsimp only
  split
  · trivial
  · refine Program.upholds_request_bind ⟨rfl, hg⟩ fun answer _ => ?_
    cases answer with
    | none => trivial
    | some a =>
      dsimp only
      split
      · exact Program.upholds_request_bind trivial fun _ _ => trivial
      · trivial

lemma enrollSingleton_keepsTo {g : UserGroup} (hg : ¬ fresh g.id) :
    KeepsTo s fresh (enrollSingleton logs s p g) fun _ => True := by
  unfold enrollSingleton
  split
  · refine Program.upholds_request_bind ⟨g.id, rfl, hg⟩ fun members _ => ?_
    split
    · exact (enroll_keepsTo hg _ _).bind fun _ _ => trivial
    · trivial
  · trivial

lemma enrollSingletons_keepsTo :
    KeepsTo s fresh (enrollSingletons logs s p) fun _ => True :=
  Program.upholds_request_bind rfl fun _ hgroups =>
    Program.upholds_foldlM (fun g hg _ _ => enrollSingleton_keepsTo (hgroups g hg)) trivial

/-- The assignments of the submitter are of groups that may be asked for. -/
lemma carryFirstAuthor_keepsTo {existing : List StageAssignment}
    (h : ∀ a ∈ existing, ¬ fresh a.seat.groupId) :
    KeepsTo s fresh (carryFirstAuthor logs s p existing) fun _ => True := by
  induction existing with
  | nil => trivial
  | cons a rest ih =>
    have hrest := ih fun b hb => h b (List.mem_cons_of_mem a hb)
    refine Program.upholds_request_bind ⟨_, rfl, h a List.mem_cons_self⟩ fun found hfound => ?_
    cases found with
    | none => exact hrest
    | some g =>
      dsimp only
      split
      · exact enroll_keepsTo (hfound g rfl) _ _
      · exact hrest

lemma carrySubmitter_keepsTo (submitter : Value) :
    KeepsTo s fresh (carrySubmitter logs s submitter p) fun _ => True := by
  unfold carrySubmitter
  split
  · exact Program.upholds_request_bind rfl fun _ hexisting => carryFirstAuthor_keepsTo hexisting
  · trivial

lemma candidates_keepsTo :
    KeepsTo s fresh (candidates s) fun cs => ∀ c ∈ cs, ¬ fresh c.group.id := by
  refine Program.upholds_foldlM (fun grouping _ found hfound => ?_)
    fun _ hc => absurd hc List.not_mem_nil
  refine Program.upholds_request_bind rfl fun users _ => ?_
  refine Program.upholds_foldlM (fun userId _ found hfound => ?_) hfound
  refine Program.upholds_request_bind rfl fun groups hgroups => ?_
  have heditors : ∀ g ∈ groups.filter (·.role == .subEditor), ¬ fresh g.id :=
    fun g hg => hgroups g (List.mem_filter.1 hg).1
  revert heditors
  cases groups.filter (·.role == .subEditor) with
  | nil => exact fun _ => hfound
  | cons g rest =>
    intro heditors
    exact Program.upholds_ofExcept_bind fun _ _ => forall_mem_addCandidates hfound heditors

lemma enrollSubEditors_keepsTo :
    KeepsTo s fresh (enrollSubEditors logs s p) fun _ => True :=
  candidates_keepsTo.bind fun _ hcs => Program.upholds_foldlM (fun c hc _ _ =>
    (enroll_keepsTo (hcs c hc) _ _).bind fun _ _ => (Program.upholds_pure _).2 trivial) trivial

lemma notifyAll_keepsTo (type : NotificationType) (level : NotificationLevel)
    (users : List Value) :
    KeepsTo s fresh (notifyAll s type level users) fun _ => True := by
  induction users with
  | nil => trivial
  | cons userId rest ih =>
    rw [notifyAll]
    refine Program.upholds_ofExcept_bind fun r _ => ?_
    exact Program.upholds_request_bind rfl fun _ _ => ih.bind fun _ _ => trivial

lemma route_keepsTo (created : List StageAssignment) (notify : List String) :
    KeepsTo s fresh (route s created notify) fun _ => True := by
  refine Program.upholds_request_bind trivial fun _ _ => ?_
  have hclose : ∀ (sent : List NotificationRequest) (escalated : Bool),
      KeepsTo s fresh (do
        let _ ← Plan.withdraw [.approveSubmission] .submission (.text s.id)
        return (⟨created, notify, sent, escalated⟩ : Outcome)) fun _ => True :=
    fun _ _ => Program.upholds_request_bind trivial fun _ _ => trivial
  split
  · simp only [pure_bind]
    refine Program.upholds_request_bind rfl fun managers _ => ?_
    refine Program.upholds_ofExcept_bind fun users _ => ?_
    exact (notifyAll_keepsTo _ _ users).bind fun sent _ => hclose sent true
  · simp only [pure_bind]
    exact (notifyAll_keepsTo _ _ _).bind fun sent _ => hclose sent false

/-- A run keeps to its submission and the context of that. -/
theorem run_keepsTo (logs : Bool) (s : Submission) (submitter : Value) :
    KeepsTo s fresh (run logs s submitter) fun _ => True :=
  enrollSingletons_keepsTo.bind fun _ _ => (carrySubmitter_keepsTo submitter).bind fun _ _ =>
    enrollSubEditors_keepsTo.bind fun p _ =>
      Program.upholds_ofExcept_bind fun notify _ => route_keepsTo p.created notify

/-- Whatever rows of other contexts the directory has in between, with groups that are nowhere in
the first database: a run comes to the same outcome, and leaves the tables outside the directory as
it leaves them without these rows. -/
theorem run_isolated {db db' : Database} {now : Calendar.Moment} (h : db.WellFormed)
    (hneighbours : Neighboured s.contextId fresh db db') (hunused : Unused fresh db)
    (hnow : now.offset = some .utc) (logs : Bool) (submitter : Value) :
    let session := sessionOf (.shows now) (run logs s submitter)
    ∃ o, (session.run db).1 = .ok o ∧ (session.run db').1 = .ok o ∧
      ∀ table ∉ Table.directory,
        (session.run db').2.rows table = (session.run db).2.rows table := by
  intro session
  have hbeside : Beside s.contextId fresh db db' :=
    { toNeighboured := hneighbours, toUnused := hunused, plain := h.toPlain,
      roles := h.sound.roles }
  obtain ⟨hsame, hend, -⟩ := (run_keepsTo logs s submitter).run_alike
    (fun _ _ _ hq hst => hst.request (.shows now) hq) hbeside
  rw [← run_sessionOf, ← run_sessionOf] at hsame hend
  obtain ⟨o, _, _, hrun, -⟩ := run_alone h.sound hnow logs s submitter
  have hok : (session.run db).1 = .ok o := congrArg Prod.fst hrun
  exact ⟨o, hok, hsame.trans hok, hend.same⟩

/-- The small office with another journal next door. Its group has no role that there is, and is
open at a stage of the office; its only member is the manager of the office. -/
def campus : Database :=
  (((office.setRows Table.userGroups
    ([("id", .text "g-9"), ("context_id", .text "ctx-2"), ("role_id", .int 99)] ::
      office.rows Table.userGroups)).setRows Table.userGroupStages
    ([("user_group_id", .text "g-9"), ("context_id", .text "ctx-1"), ("stage_id", .int 1)] ::
      office.rows Table.userGroupStages)).setRows Table.memberships
    ([("user_group_id", .text "g-9"), ("user_id", .text "u-1")] ::
      office.rows Table.memberships)).setRows Table.subEditors
    ([("context_id", .text "ctx-2"), ("assoc_type", .text "section"), ("assoc_id", .text "sec-1"),
      ("user_id", .text "u-1")] :: office.rows Table.subEditors)

lemma campus_neighboured : Neighboured paper.contextId (· = "g-9") office campus where
  frame := rfl
  groups := .more ⟨rfl, by decide⟩ (.both (.both .nil))
  stages := .more rfl (.both .nil)
  memberships := .more rfl (.both (.both .nil))
  subEditors := .more (by decide) (.both .nil)
  same table htable := by
    simp only [Table.directory, List.mem_cons, List.not_mem_nil, or_false, not_or] at htable
    simp only [campus, rows_setRows, htable, if_false]

/-- A run on the office does not notice the journal next door. -/
theorem office_isolated : office.WellFormed ∧ Unused (· = "g-9") office ∧
    Neighboured paper.contextId (· = "g-9") office campus ∧ dawn.offset = some .utc ∧
    let session := sessionOf (.shows dawn) (run true paper .null)
    ∃ o, (session.run office).1 = .ok o ∧ (session.run campus).1 = .ok o ∧
      ∀ table ∉ Table.directory,
        (session.run campus).2.rows table = (session.run office).2.rows table := by
  have hunused : Unused (· = "g-9") office := by
    refine ⟨fun row hrow => ?_, fun row hrow => absurd hrow List.not_mem_nil⟩
    rcases List.mem_pair.1 hrow with rfl | rfl <;> decide
  have hdawn : dawn.offset = some .utc := rfl
  exact ⟨office_wellFormed, hunused, campus_neighboured, hdawn,
    run_isolated office_wellFormed campus_neighboured hunused hdawn true .null⟩

end EditorialDesk.Intake
