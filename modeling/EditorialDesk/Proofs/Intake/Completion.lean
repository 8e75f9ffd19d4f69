import EditorialDesk.Proofs.Intake.Account
import EditorialDesk.Proofs.Intake.Idempotence
import EditorialDesk.Proofs.Store.Seating

/-!
# A run comes to an outcome

A run needs little of its answers to come to an outcome: that its requests are answered at
all, and that users are named by texts. So it comes to one on every well-formed database,
whether or not that keeps seats unique.
-/
namespace EditorialDesk.Intake

open Database Store

/-- The contract of which nothing is known but that users are named by texts. -/
def naming (now : Calendar.Moment) : Contract Request Request.Answer Unit Unit where
  may := Servable now
  answers _ q r _ _ := q.NamesUsers r

/-- As long as users are named by texts, a plan comes to a result of which `post` holds. -/
abbrev Completes {α : Type} (now : Calendar.Moment) (plan : Plan α) (post : α → Prop) : Prop :=
  plan.Meets (naming now) () fun a _ _ => post a

section Rules

variable {α β γ : Type} {now : Calendar.Moment} {post : α → Prop}

lemma Completes.mono {plan : Plan α} (h : Completes now plan post) {post' : α → Prop}
    (hpost : ∀ a, post a → post' a) : Completes now plan post' :=
  Program.Meets.mono h fun a _ _ => hpost a

lemma Completes.bind {plan : Plan α} (h : Completes now plan post) {f : α → Plan β}
    {post' : β → Prop} (hf : ∀ a, post a → Completes now (f a) post') :
    Completes now (plan >>= f) post' :=
  (Program.meets_bind _ _ _ _).2 (Program.Meets.mono h fun a _ _ => hf a)

lemma completes_request_bind {q : Request} {f : q.Answer → Plan α} (hq : Servable now q)
    (hf : ∀ r, q.NamesUsers r → Completes now (f r) post) :
    Completes now (Program.request q >>= f) post :=
  (Program.meets_request_bind _ _ _ _).2 ⟨hq, fun r _ _ => hf r⟩

lemma completes_foldlM {f : β → γ → Plan β} {items : List γ} {inv : β → Prop}
    (hstep : ∀ x ∈ items, ∀ b, inv b → Completes now (f b x) inv) {b : β} (h : inv b) :
    Completes now (items.foldlM f b) inv := by
  induction items generalizing b with
  | nil => exact h
  | cons x rest ih =>
    rw [List.foldlM_cons]
    exact (hstep x List.mem_cons_self b h).bind fun b' hb =>
      ih (fun y hy => hstep y (List.mem_cons_of_mem x hy)) hb

end Rules

/-- All on the list of those to notify are named by texts. -/
def Progress.NotesTexts (p : Progress) : Prop := ∃ users : List String, p.notify = users.map .text

/-- A candidate is named by a text. -/
def Candidate.IsNamed (c : Candidate) : Prop := ∃ userId : String, c.userId = .text userId

variable {now : Calendar.Moment} {logs : Bool} {s : Submission} {p : Progress}

lemma Progress.NotesTexts.note (h : p.NotesTexts) (userId : String) :
    (p.note (.text userId)).NotesTexts := by
  obtain ⟨users, husers⟩ := h
  unfold Progress.note
  split
  · exact ⟨users, husers⟩
  · exact ⟨users ++ [userId], by rw [husers, List.map_append]; rfl⟩

lemma enroll_completes (hp : p.NotesTexts) (g : UserGroup) (userId : String)
    (recommendOnly : Bool) :
    Completes now (enroll logs s p g (.text userId) recommendOnly) Progress.NotesTexts := by
  unfold enroll
  rw [Fault.named_text]
  change Completes now (if _ then _ else _) _
  split
  · exact hp
  · refine completes_request_bind trivial fun answer _ => ?_
    cases answer with
    | none => exact hp
    | some a =>
      dsimp only
      split
      · exact completes_request_bind ⟨_, rfl⟩ fun _ _ => hp
      · exact hp

lemma enrollSingleton_completes (hp : p.NotesTexts) (g : UserGroup) :
    Completes now (enrollSingleton logs s p g) Progress.NotesTexts := by
  unfold enrollSingleton
  split
  · refine completes_request_bind rfl fun members hmembers => ?_
    obtain ⟨users, rfl⟩ := hmembers
    rcases users with _ | ⟨userId, _ | ⟨other, rest⟩⟩
    · exact hp
    · exact (enroll_completes hp g userId _).bind fun _ hp' => hp'.note userId
    · exact hp
  · exact hp

lemma enrollSingletons_completes :
    Completes now (enrollSingletons logs s .start) Progress.NotesTexts :=
  completes_request_bind trivial fun _ _ =>
    completes_foldlM (fun g _ _ hp => enrollSingleton_completes hp g) ⟨[], rfl⟩

lemma carryFirstAuthor_completes (hp : p.NotesTexts) (existing : List StageAssignment) :
    Completes now (carryFirstAuthor logs s p existing) Progress.NotesTexts := by
  induction existing with
  | nil => exact hp
  | cons a rest ih =>
    refine completes_request_bind rfl fun found _ => ?_
    cases found with
    | none => exact ih
    | some g =>
      dsimp only
      split
      · exact enroll_completes hp g a.seat.userId false
      · exact ih

lemma carrySubmitter_completes (hp : p.NotesTexts) (submitter : Value) :
    Completes now (carrySubmitter logs s submitter p) Progress.NotesTexts := by
  unfold carrySubmitter
  split
  · exact completes_request_bind rfl fun existing _ => carryFirstAuthor_completes hp existing
  · exact hp

lemma isNamed_addCandidates {found : List Candidate} (hfound : ∀ c ∈ found, c.IsNamed)
    (userId : String) (groups : List UserGroup) :
    ∀ c ∈ addCandidates found (.text userId) groups, c.IsNamed := by
  unfold addCandidates
  induction groups generalizing found with
  | nil => exact hfound
  | cons g rest ih =>
    rw [List.foldl_cons]
    refine ih ?_
    split
    · exact hfound
    · intro c hc
      rcases List.mem_append.1 hc with hc | hc
      · exact hfound c hc
      · obtain rfl := List.mem_singleton.1 hc
        exact ⟨userId, rfl⟩

lemma candidates_completes :
    Completes now (candidates s) fun found => ∀ c ∈ found, c.IsNamed := by
  refine completes_foldlM (fun grouping _ found hfound => ?_) fun _ hc => absurd hc List.not_mem_nil
  refine completes_request_bind trivial fun users husers => ?_
  obtain ⟨names, rfl⟩ := husers
  rw [List.foldlM_map]
  refine completes_foldlM (fun userId _ found hfound => ?_) hfound
  refine completes_request_bind trivial fun groups _ => ?_
  split
  · exact hfound
  · exact isNamed_addCandidates hfound userId _

lemma enrollSubEditors_completes (hp : p.NotesTexts) :
    Completes now (enrollSubEditors logs s p) Progress.NotesTexts := by
  refine candidates_completes.bind fun found hfound => ?_
  refine completes_foldlM (fun c hc p hp => ?_) hp
  obtain ⟨userId, hc⟩ := hfound c hc
  unfold enrollCandidate
  rw [hc]
  refine (enroll_completes hp c.group userId _).bind fun p' hp' => (Program.meets_pure _ _ _).2 ?_
  split
  · exact hp'.note userId
  · exact hp'

lemma notifyAll_completes (type : NotificationType) (level : NotificationLevel)
    (users : List String) :
    Completes now (notifyAll s type level (users.map .text)) fun _ => True := by
  induction users with
  | nil => trivial
  | cons userId rest ih =>
    have hrequest : requestFor s type level (.text userId) =
        .ok (requestTo s type level userId) := rfl
    rw [List.map_cons, notifyAll, hrequest]
    exact completes_request_bind rfl fun _ _ => ih.bind fun _ _ => trivial

lemma route_completes (created : List StageAssignment) (notify : List String) :
    Completes now (route s created notify) fun _ => True := by
  have hpending : NotificationType.pendingDecisions ≠ [] := by decide
  have happrove : [NotificationType.approveSubmission] ≠ [] := by decide
  have hclose : ∀ (sent : List NotificationRequest) (escalated : Bool), Completes now (do
      let _ ← Plan.withdraw [.approveSubmission] .submission (.text s.id)
      return (⟨created, notify, sent, escalated⟩ : Outcome)) fun _ => True :=
    fun _ _ => completes_request_bind happrove fun _ _ => trivial
  refine completes_request_bind hpending fun _ _ => ?_
  split
  · simp only [pure_bind]
    refine completes_request_bind trivial fun managers hmanagers => ?_
    obtain ⟨names, rfl⟩ := hmanagers
    rw [distinctNames_text]
    exact (notifyAll_completes _ _ _).bind fun sent _ => hclose sent true
  · simp only [pure_bind]
    exact (notifyAll_completes _ _ _).bind fun sent _ => hclose sent false

/-- As long as users are named by texts, a run comes to an outcome. -/
theorem run_completes (logs : Bool) (s : Submission) (submitter : Value) :
    Completes now (run logs s submitter) fun _ => True := by
  refine enrollSingletons_completes.bind fun p hp => ?_
  refine (carrySubmitter_completes hp submitter).bind fun p hp => ?_
  refine (enrollSubEditors_completes hp).bind fun p hp => ?_
  obtain ⟨users, husers⟩ := hp
  rw [notified_eq husers]
  exact route_completes p.created users

variable {base db : Database}

/-- A run comes to an outcome on every later state of a sound database, whether or not seats are
kept unique. -/
theorem run_returns (hbase : base.Sound) (hnow : now.offset = some .utc) (unique : Bool)
    (logs : Bool) (s : Submission) (submitter : Value) (hdb : Later base db) :
    ∃ o u, (sessionOf (.shows now) (run logs s submitter)).run (db.keeping unique) =
      (.ok o, u.keeping unique) ∧ Later base u := by
  have hserve : ∀ q (t : Database) (_ : Unit), Servable now q →
      (∃ db, t = db.keeping unique ∧ Later base db) → ∃ r t' ds s',
        (session (.shows now) q).run t = (.ok r, t') ∧ (naming now).answers () q r ds s' ∧
          ∃ db, t' = db.keeping unique ∧ Later base db := by
    rintro q _ _ hq ⟨db, rfl, hdb⟩
    obtain ⟨r, t, hrun, hnames, ht⟩ := session_answers hbase hnow unique hq hdb
    exact ⟨r, _, [], (), hrun, hnames, t, rfl, ht⟩
  obtain ⟨o, _, _, _, hrun, -, u, rfl, hu⟩ :=
    (run_completes logs s submitter).run hserve ⟨db, rfl, hdb⟩
  exact ⟨o, u, (run_sessionOf _ _ _).trans hrun, hu⟩

end EditorialDesk.Intake
