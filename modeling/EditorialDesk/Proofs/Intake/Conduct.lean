import EditorialDesk.Intake.Routine
import EditorialDesk.Proofs.Intake.Distinct
import EditorialDesk.Proofs.Program.Dialogue
import EditorialDesk.Proofs.Value.Alike

/-!
# Conduct of the intake

How a run behaves towards collaborators of which nothing is known: the directory may name
anyone, any number of times, a seat may be granted or refused as it comes, and any request may
fail. A run asks for each seat at most once, logs what it is granted and nothing else, and
speaks of notifications only when it has enrolled everybody. The invariant is carried from
request to request, first while the run enrols and then while it tells.
-/
namespace EditorialDesk

/-- The requests of an intake in order, with what came back. -/
abbrev Talk : Type := List (Exchange Request Request.Answer Fault)

namespace Request

/-- Whether a request enrols somebody. -/
def enrollment? : Request → Option Enrollment
  | enroll e => some e
  | _ => none

def isLog : Request → Bool
  | log _ => true
  | _ => false

/-- Whether a request makes or withdraws notifications. -/
def isNotice : Request → Bool
  | notify _ | withdraw .. => true
  | _ => false

/-- Whether a request belongs to the last part of a run, in which users are told. -/
def isTelling : Request → Bool
  | managers _ => true
  | q => q.isNotice

/-- Whether a request only looks up whom to enrol. -/
def isLookup : Request → Bool
  | groupsForStage .. | groupsForUser .. | group _ | members .. | subEditors .. | assignments _ =>
    true
  | _ => false

@[simp] lemma isTelling_enroll (e : Enrollment) : (enroll e).isTelling = false := rfl

@[simp] lemma isTelling_log (event : Event) : (log event).isTelling = false := rfl

lemma isNotice_of_not_telling {q : Request} (h : q.isTelling = false) : q.isNotice = false := by
  cases q with
  | notify _ | withdraw _ _ _ => exact absurd h Bool.noConfusion
  | _ => rfl

lemma of_isTelling {q : Request} (h : q.isTelling = true) :
    q.enrollment? = none ∧ q.isLog = false := by
  cases q with
  | enroll _ | log _ => exact absurd h Bool.noConfusion
  | _ => exact ⟨rfl, rfl⟩

lemma of_isLookup {q : Request} (h : q.isLookup = true) :
    q.enrollment? = none ∧ q.isLog = false ∧ q.isTelling = false := by
  cases q with
  | managers _ | enroll _ | notify _ | withdraw _ _ _ | log _ | save _ =>
    exact absurd h Bool.noConfusion
  | _ => exact ⟨rfl, rfl, rfl⟩

end Request

/-- The assignment by which an enrolment was answered. -/
def Exchange.granted? : Exchange Request Request.Answer Fault → Option StageAssignment
  | ⟨.enroll _, .ok a⟩ => a
  | _ => none

lemma Exchange.granted?_of_no_enrollment {x : Exchange Request Request.Answer Fault}
    (h : x.request.enrollment? = none) : x.granted? = none := by
  obtain ⟨q, reply⟩ := x
  cases q with
  | enroll e => exact absurd h (Option.some_ne_none e)
  | _ => rfl

namespace Talk

/-- The seats that were asked for. -/
def enrollments (xs : Talk) : List Enrollment := xs.filterMap (·.request.enrollment?)

/-- The assignments that were granted. -/
def granted (xs : Talk) : List StageAssignment := xs.filterMap (·.granted?)

/-- What notifications were made and withdrawn. -/
def notices (xs : Talk) : List Request := (xs.map (·.request)).filter (·.isNotice)

variable {xs ys : Talk}

@[simp] lemma enrollments_append : enrollments (xs ++ ys) = enrollments xs ++ enrollments ys :=
  List.filterMap_append

@[simp] lemma granted_append : granted (xs ++ ys) = granted xs ++ granted ys :=
  List.filterMap_append

@[simp] lemma notices_append : notices (xs ++ ys) = notices xs ++ notices ys := by
  simp [notices]

lemma enrollments_of_telling (h : ∀ x ∈ xs, x.request.isTelling = true) : enrollments xs = [] :=
  List.filterMap_eq_nil_iff.2 fun x hx => (Request.of_isTelling (h x hx)).1

lemma granted_of_telling (h : ∀ x ∈ xs, x.request.isTelling = true) : granted xs = [] :=
  List.filterMap_eq_nil_iff.2 fun x hx =>
    Exchange.granted?_of_no_enrollment (Request.of_isTelling (h x hx)).1

lemma notices_of_not_telling (h : ∀ x ∈ xs, x.request.isTelling = false) : notices xs = [] := by
  rw [notices, List.filter_eq_nil_iff]
  intro q hq
  obtain ⟨x, hx, rfl⟩ := List.mem_map.1 hq
  simp [Request.isNotice_of_not_telling (h x hx)]

end Talk

namespace Intake

variable {logs : Bool} {s : Submission} {p : Progress} {xs ys : Talk}

/-- Exchanges in which every enrolment that was granted is entered in the log by the very next
request, with its group and its user, and nothing else is entered. If `logs` is not set, nothing
is. -/
inductive Logged (logs : Bool) (submissionId : String) : Talk → Prop
  | nil : Logged logs submissionId []
  | other {x : Exchange Request Request.Answer Fault} {xs : Talk} (hgranted : x.granted? = none)
      (hlog : x.request.isLog = false) (rest : Logged logs submissionId xs) :
      Logged logs submissionId (x :: xs)
  | silent {e : Enrollment} {a : StageAssignment} {xs : Talk} (hlogs : logs = false)
      (rest : Logged logs submissionId xs) :
      Logged logs submissionId (⟨.enroll e, .ok (some a)⟩ :: xs)
  | entered {e : Enrollment} {a : StageAssignment} {g : UserGroup} {reply : Except Fault LogEntry}
      {xs : Talk} (hlogs : logs = true) (hgroup : e.groupId = .text g.id)
      (rest : Logged logs submissionId xs) :
      Logged logs submissionId (⟨.enroll e, .ok (some a)⟩ ::
        ⟨.log (participantEvent submissionId g e.userId), reply⟩ :: xs)

lemma Logged.append {submissionId : String} (h : Logged logs submissionId xs)
    (h' : Logged logs submissionId ys) : Logged logs submissionId (xs ++ ys) := by
  induction h with
  | nil => exact h'
  | other hgranted hlog _ ih => exact .other hgranted hlog ih
  | silent hlogs _ ih => exact .silent hlogs ih
  | entered hlogs hgroup _ ih => exact .entered hlogs hgroup ih

lemma logged_of_telling {submissionId : String} (h : ∀ x ∈ xs, x.request.isTelling = true) :
    Logged logs submissionId xs := by
  induction xs with
  | nil => exact .nil
  | cons x rest ih =>
    have hx := Request.of_isTelling (h x List.mem_cons_self)
    exact .other (Exchange.granted?_of_no_enrollment hx.1) hx.2
      (ih fun y hy => h y (List.mem_cons_of_mem x hy))

/-- What a run tells that has sent these notifications so far: pending decisions are withdrawn
first. -/
def announced (s : Submission) (sent : List NotificationRequest) : List Request :=
  .withdraw NotificationType.pendingDecisions .submission (.text s.id) ::
    sent.map fun r => .notify r.notice

/-- What a run tells in all: the approval is withdrawn last. -/
def agenda (s : Submission) (sent : List NotificationRequest) : List Request :=
  announced s sent ++ [.withdraw [.approveSubmission] .submission (.text s.id)]

lemma announced_concat (s : Submission) (sent : List NotificationRequest)
    (r : NotificationRequest) :
    announced s (sent ++ [r]) = announced s sent ++ [.notify r.notice] :=
  congrArg _ List.map_append

/-- Notifications of one kind to users no two of whom are the same. -/
structure IsRound (sent : List NotificationRequest) : Prop where
  users : (sent.map (·.userId)).Nodup
  type : ∃ type, ∀ r ∈ sent, r.type = type

lemma isRound_nil : IsRound [] := ⟨List.nodup_nil, .submissionSubmitted, by simp⟩

/-- How a run behaves, whether it comes to an outcome or breaks off. -/
structure Conduct (logs : Bool) (s : Submission) (xs : Talk) : Prop where
  /-- No seat is asked for twice. -/
  once : xs.enrollments.Pairwise fun e e' => e.sharesSeat e' = false
  logged : Logged logs s.id xs
  /-- Whoever is told is told after all enrolments. -/
  order : ∃ before after, xs = before ++ after ∧ (∀ x ∈ before, x.request.isTelling = false) ∧
    ∀ x ∈ after, x.request.isTelling = true
  /-- A run that breaks off before it comes to telling has neither made nor withdrawn a
  notification. -/
  early : ∀ before x, xs = before ++ [x] → x.request.isTelling = false → xs.notices = []
  /-- The notices are those of an agenda, as far as the run comes. -/
  notices : ∃ sent, IsRound sent ∧ xs.notices <+: agenda s sent

/-- What is more if a run comes to an outcome. -/
structure Concluded (s : Submission) (xs : Talk) (o : Outcome) : Prop where
  created : o.created = xs.granted
  round : IsRound o.notifications
  notices : xs.notices = agenda s o.notifications

/-! ## Enrolling -/

/-- What a run has said while it enrols, even if the last request has failed. -/
structure Enrolled (logs : Bool) (s : Submission) (xs : Talk) : Prop where
  once : xs.enrollments.Pairwise fun e e' => e.sharesSeat e' = false
  logged : Logged logs s.id xs
  quiet : ∀ x ∈ xs, x.request.isTelling = false

/-- How far a run has come that is still enrolling. -/
structure Enrolling (logs : Bool) (s : Submission) (p : Progress) (xs : Talk) : Prop
    extends Enrolled logs s xs where
  seen : p.seen = xs.enrollments
  created : p.created = xs.granted
  listed : p.notify.Pairwise fun a b => a.alike b = false

lemma enrolling_start (logs : Bool) (s : Submission) : Enrolling logs s .start [] where
  once := .nil
  logged := .nil
  quiet _ hx := absurd hx List.not_mem_nil
  seen := rfl
  created := rfl
  listed := .nil

/-- The list of those to notify is not spoken of while the run enrols. -/
lemma Enrolling.note (h : Enrolling logs s p xs) (userId : Value) :
    Enrolling logs s (p.note userId) xs where
  toEnrolled := h.toEnrolled
  seen := by
    unfold Progress.note
    split <;> exact h.seen
  created := by
    unfold Progress.note
    split <;> exact h.created
  listed := Progress.pairwise_notify_note h.listed userId

lemma Enrolled.append (h : Enrolled logs s xs)
    (honce : (xs.enrollments ++ ys.enrollments).Pairwise fun e e' => e.sharesSeat e' = false)
    (hlogged : Logged logs s.id ys) (hquiet : ∀ x ∈ ys, x.request.isTelling = false) :
    Enrolled logs s (xs ++ ys) where
  once := by rwa [Talk.enrollments_append]
  logged := h.logged.append hlogged
  quiet x hx := (List.mem_append.1 hx).elim (h.quiet x) (hquiet x)

/-- An exchange that looks something up, failed or not, leaves everything as it is. -/
lemma Enrolled.lookup (h : Enrolled logs s xs) {x : Exchange Request Request.Answer Fault}
    (hx : x.request.isLookup = true) : Enrolled logs s (xs ++ [x]) := by
  obtain ⟨henroll, hlog, htelling⟩ := Request.of_isLookup hx
  have hasked : Talk.enrollments [x] = [] := by simp [Talk.enrollments, henroll]
  refine h.append ?_ (.other (Exchange.granted?_of_no_enrollment henroll) hlog .nil) fun y hy => ?_
  · rw [hasked, List.append_nil]
    exact h.once
  · rw [List.mem_singleton.1 hy]
    exact htelling

lemma Enrolling.lookup (h : Enrolling logs s p xs) {x : Exchange Request Request.Answer Fault}
    (hx : x.request.isLookup = true) : Enrolling logs s p (xs ++ [x]) := by
  obtain ⟨henroll, -, -⟩ := Request.of_isLookup hx
  refine ⟨h.toEnrolled.lookup hx, ?_, ?_, h.listed⟩
  · rw [h.seen, Talk.enrollments_append]
    simp [Talk.enrollments, henroll]
  · rw [h.created, Talk.granted_append]
    simp [Talk.granted, Exchange.granted?_of_no_enrollment henroll]

lemma Enrolling.ensures_lookup {α : Type} {q : Request} {f : q.Answer → Plan α}
    {good : α → Talk → Prop} (h : Enrolling logs s p xs) (hq : q.isLookup = true)
    (hnext : ∀ r ys, Enrolling logs s p ys → (f r).Ensures ys good (Enrolled logs s)) :
    (Program.request q >>= f).Ensures xs good (Enrolled logs s) :=
  Program.ensures_request_bind.2
    ⟨fun _ => h.toEnrolled.lookup hq, fun r => hnext r _ (h.lookup hq)⟩

/-- A seat is asked for that was not asked for before, and what is granted is entered. -/
theorem enroll_ensures (h : Enrolling logs s p xs) (g : UserGroup) (userId : Value)
    (recommendOnly : Bool) : (enroll logs s p g userId recommendOnly).Ensures xs
      (Enrolling logs s) (Enrolled logs s) := by
  unfold enroll
  refine Program.ensures_ofExcept_bind.2 ⟨fun _ _ => h.toEnrolled, fun u _ => ?_⟩
  set e : Enrollment := ⟨.text s.id, .text g.id, u, .bool recommendOnly⟩ with he
  dsimp only
  by_cases hseen : p.seen.any (·.sharesSeat e) = true
  · rw [if_pos hseen]
    exact h
  rw [if_neg hseen]
  have honce : (xs.enrollments ++ [e]).Pairwise fun e e' => e.sharesSeat e' = false := by
    refine List.pairwise_append.2 ⟨h.once, List.pairwise_singleton _ _, fun e₁ h₁ e₂ h₂ => ?_⟩
    rw [List.mem_singleton.1 h₂]
    cases hshare : e₁.sharesSeat e with
    | false => rfl
    | true => exact absurd (List.any_eq_true.2 ⟨e₁, h.seen ▸ h₁, hshare⟩) hseen
  have hsaid : ∀ ys : Talk, ys.enrollments = [e] → Logged logs s.id ys →
      (∀ x ∈ ys, x.request.isTelling = false) → Enrolled logs s (xs ++ ys) :=
    fun ys hys => h.toEnrolled.append (hys ▸ honce)
  have hdone : ∀ (ys : Talk) (p' : Progress), ys.enrollments = [e] → Logged logs s.id ys →
      (∀ x ∈ ys, x.request.isTelling = false) → p'.seen = p.seen ++ [e] →
      p'.created = p.created ++ ys.granted → p'.notify = p.notify →
      Enrolling logs s p' (xs ++ ys) := by
    intro ys p' hys hlogged hquiet hseen' hcreated hnotify
    refine ⟨hsaid ys hys hlogged hquiet, ?_, ?_, hnotify ▸ h.listed⟩
    · rw [hseen', h.seen, Talk.enrollments_append, hys]
    · rw [hcreated, h.created, Talk.granted_append]
  refine Program.ensures_request_bind.2 ⟨fun fault => ?_, fun r => ?_⟩
  · exact hsaid _ rfl (.other rfl rfl .nil) (by simp)
  cases r with
  | none =>
    exact hdone _ _ rfl (.other rfl rfl .nil) (by simp) rfl
      (List.append_nil _).symm rfl
  | some a =>
    cases logs with
    | false =>
      exact hdone _ _ rfl (.silent rfl .nil) (by simp) rfl
        rfl rfl
    | true =>
      refine Program.ensures_request_bind.2 ⟨fun fault => ?_, fun entry => ?_⟩
      · rw [List.append_assoc]
        exact hsaid _ rfl (.entered rfl rfl .nil) (by simp)
      · rw [List.append_assoc]
        exact hdone _ _ rfl (.entered rfl rfl .nil)
          (by simp) rfl rfl rfl

theorem enrollSingleton_ensures (h : Enrolling logs s p xs) (g : UserGroup) :
    (enrollSingleton logs s p g).Ensures xs (Enrolling logs s) (Enrolled logs s) := by
  unfold enrollSingleton
  split
  · refine h.ensures_lookup rfl fun members ys hys => ?_
    split
    · next userId =>
      refine Program.ensures_bind.2 ((enroll_ensures hys g userId g.recommendOnly).mono ?_ ?_)
      · exact fun p' zs hzs => hzs.note userId
      · exact fun _ hzs => hzs
    · exact hys
  · exact h

theorem enrollSingletons_ensures (h : Enrolling logs s p xs) :
    (enrollSingletons logs s p).Ensures xs (Enrolling logs s) (Enrolled logs s) :=
  h.ensures_lookup rfl fun _ _ hys =>
    Program.ensures_foldlM (fun g _ _ _ h => enrollSingleton_ensures h g) hys

/-- Whatever is found, at most one group is enrolled through. -/
theorem carryFirstAuthor_ensures (h : Enrolling logs s p xs) (existing : List StageAssignment) :
    (carryFirstAuthor logs s p existing).Ensures xs (Enrolling logs s) (Enrolled logs s) := by
  induction existing generalizing xs with
  | nil => exact h
  | cons a rest ih =>
    refine h.ensures_lookup rfl fun found ys hys => ?_
    cases found with
    | none => exact ih hys
    | some g =>
      dsimp only
      split
      · exact enroll_ensures hys g (.text a.seat.userId) false
      · exact ih hys

theorem carrySubmitter_ensures (h : Enrolling logs s p xs) (submitter : Value) :
    (carrySubmitter logs s submitter p).Ensures xs (Enrolling logs s) (Enrolled logs s) := by
  unfold carrySubmitter
  split
  · exact h.ensures_lookup rfl fun existing _ hys => carryFirstAuthor_ensures hys existing
  · exact h

theorem candidates_ensures (h : Enrolling logs s p xs) :
    (candidates s).Ensures xs (fun _ => Enrolling logs s p) (Enrolled logs s) := by
  refine Program.ensures_foldlM (fun grouping _ found ys hys => ?_) h
  refine hys.ensures_lookup rfl fun users zs hzs => ?_
  refine Program.ensures_foldlM (fun userId _ found ys hys => ?_) hzs
  refine hys.ensures_lookup rfl fun groups zs hzs => ?_
  split
  · exact hzs
  · exact Program.ensures_ofExcept_bind.2 ⟨fun _ _ => hzs.toEnrolled, fun _ _ => hzs⟩

theorem enrollSubEditors_ensures (h : Enrolling logs s p xs) :
    (enrollSubEditors logs s p).Ensures xs (Enrolling logs s) (Enrolled logs s) := by
  refine Program.ensures_bind.2 ((candidates_ensures h).mono (fun cs ys hys => ?_) fun _ h => h)
  refine Program.ensures_foldlM (fun c _ p' zs hzs => ?_) hys
  refine Program.ensures_bind.2
    ((enroll_ensures hzs c.group c.userId c.group.recommendOnly).mono (fun p' ws hws => ?_)
      fun _ h => h)
  rw [Program.ensures_pure]
  split
  · exact hws.note c.userId
  · exact hws

/-! ## Telling -/

/-- How far a run has come that has enrolled everybody and told what `told` lists. -/
def Telling (logs : Bool) (s : Submission) (p : Progress) (told : List Request) (xs : Talk) :
    Prop :=
  ∃ before after, xs = before ++ after ∧ Enrolling logs s p before ∧
    (∀ x ∈ after, x.request.isTelling = true) ∧ after.notices = told

variable {told : List Request} {sent : List NotificationRequest}

lemma Enrolling.telling (h : Enrolling logs s p xs) : Telling logs s p [] xs :=
  ⟨xs, [], (List.append_nil xs).symm, h, fun _ hx => absurd hx List.not_mem_nil, rfl⟩

/-- Another request of the last part. -/
lemma Telling.concat (h : Telling logs s p told xs) {x : Exchange Request Request.Answer Fault}
    (hx : x.request.isTelling = true) :
    Telling logs s p (told ++ Talk.notices [x]) (xs ++ [x]) := by
  obtain ⟨before, after, rfl, hbefore, hafter, rfl⟩ := h
  refine ⟨before, after ++ [x], List.append_assoc _ _ _, hbefore, fun y hy => ?_,
    Talk.notices_append⟩
  rcases List.mem_append.1 hy with hy | hy
  · exact hafter y hy
  · rwa [List.mem_singleton.1 hy]

lemma Telling.notices (h : Telling logs s p told xs) : xs.notices = told := by
  obtain ⟨before, after, rfl, hbefore, -, rfl⟩ := h
  rw [Talk.notices_append, Talk.notices_of_not_telling hbefore.quiet, List.nil_append]

lemma Telling.created (h : Telling logs s p told xs) : p.created = xs.granted := by
  obtain ⟨before, after, rfl, hbefore, hafter, -⟩ := h
  rw [Talk.granted_append, Talk.granted_of_telling hafter, List.append_nil, hbefore.created]

/-- A run that has told part of an agenda behaves well. -/
lemma Telling.conduct (h : Telling logs s p told xs) (hsent : IsRound sent)
    (htold : told <+: agenda s sent) : Conduct logs s xs where
  once := by
    obtain ⟨before, after, rfl, hbefore, hafter, -⟩ := h
    rw [Talk.enrollments_append, Talk.enrollments_of_telling hafter, List.append_nil]
    exact hbefore.once
  logged := by
    obtain ⟨before, after, rfl, hbefore, hafter, -⟩ := h
    exact hbefore.logged.append (logged_of_telling hafter)
  order := by
    obtain ⟨before, after, rfl, hbefore, hafter, -⟩ := h
    exact ⟨before, after, rfl, hbefore.quiet, hafter⟩
  early before x hx hquiet := by
    obtain ⟨before', after, rfl, hbefore, hafter, -⟩ := h
    rcases List.eq_nil_or_concat after with rfl | ⟨after', z, rfl⟩
    · rw [List.append_nil]
      exact Talk.notices_of_not_telling hbefore.quiet
    · rw [List.concat_eq_append, ← List.append_assoc] at hx
      have hz : z = x := List.singleton_injective (List.append_inj' hx rfl).2
      have htelling : x.request.isTelling = true := hafter x (by simp [hz])
      exact absurd htelling (by simp [hquiet])
  notices := ⟨sent, hsent, h.notices ▸ htold⟩

lemma Enrolled.conduct (h : Enrolled logs s xs) : Conduct logs s xs where
  once := h.once
  logged := h.logged
  order := ⟨xs, [], (List.append_nil xs).symm, h.quiet, fun _ hx => absurd hx List.not_mem_nil⟩
  early _ _ _ _ := Talk.notices_of_not_telling h.quiet
  notices := ⟨[], isRound_nil, Talk.notices_of_not_telling h.quiet ▸ List.nil_prefix⟩

/-- A notification is asked for a user who is named by a text. -/
lemma requestFor_eq_ok {type : NotificationType} {level : NotificationLevel} {userId : Value}
    {r : NotificationRequest} (h : requestFor s type level userId = .ok r) :
    userId = .text r.userId ∧ r = ⟨r.userId, type, some s.contextId, .submission, s.id, level⟩ := by
  cases userId with
  | text u =>
    have hr : requestFor s type level (.text u) =
        .ok ⟨u, type, some s.contextId, .submission, s.id, level⟩ := rfl
    rw [hr] at h
    cases h
    exact ⟨rfl, rfl⟩
  | _ => cases h

/-- Users who are told apart from each other, and from those who are still to be told. -/
lemma isRound_of_pairwise {type : NotificationType} {users : List Value}
    (htype : ∀ r ∈ sent, r.type = type)
    (hdistinct : (sent.map (fun r => Value.text r.userId) ++ users).Pairwise
      fun a b => a.alike b = false) : IsRound sent := by
  refine ⟨?_, type, htype⟩
  rw [List.Nodup, List.pairwise_map]
  refine (List.pairwise_map.1 (List.pairwise_append.1 hdistinct).1).imp fun {a b} hab => ?_
  simpa using hab

/-- The users of a list are told one after the other, each once. -/
theorem notifyAll_ensures (sent : List NotificationRequest) {type : NotificationType}
    {level : NotificationLevel} {users : List Value} (htype : ∀ r ∈ sent, r.type = type)
    (hdistinct : (sent.map (fun r => Value.text r.userId) ++ users).Pairwise
      fun a b => a.alike b = false)
    (h : Telling logs s p (announced s sent) xs) :
    (notifyAll s type level users).Ensures xs
      (fun more ys => IsRound (sent ++ more) ∧ Telling logs s p (announced s (sent ++ more)) ys)
      (Conduct logs s) := by
  have hround : IsRound sent := isRound_of_pairwise htype hdistinct
  induction users generalizing sent xs with
  | nil =>
    rw [notifyAll, Program.ensures_pure, List.append_nil]
    exact ⟨hround, h⟩
  | cons userId rest ih =>
    rw [notifyAll]
    refine Program.ensures_ofExcept_bind.2 ⟨fun _ _ => ?_, fun r hr => ?_⟩
    · exact h.conduct hround (List.prefix_append _ _)
    obtain ⟨rfl, hrequest⟩ := requestFor_eq_ok hr
    have hrtype : r.type = type := by rw [hrequest]
    have htype' : ∀ r' ∈ sent ++ [r], r'.type = type := by
      intro r' hr'
      rcases List.mem_append.1 hr' with hr' | hr'
      · exact htype r' hr'
      · rwa [List.mem_singleton.1 hr']
    have hdistinct' : ((sent ++ [r]).map (fun r => Value.text r.userId) ++ rest).Pairwise
        fun a b => a.alike b = false := by
      rwa [List.map_append, List.append_assoc]
    have hround' : IsRound (sent ++ [r]) := isRound_of_pairwise htype' hdistinct'
    have htold : ∀ reply : Except Fault (Option Value), Telling logs s p (announced s (sent ++ [r]))
        (xs ++ [⟨.notify r.notice, reply⟩]) :=
      fun reply => announced_concat s sent r ▸ h.concat rfl
    refine Program.ensures_request_bind.2 ⟨fun fault => ?_, fun reply => ?_⟩
    · exact (htold (.error fault)).conduct hround' (List.prefix_append _ _)
    · have hrest := ih (sent ++ [r]) htype' hdistinct' (htold (.ok reply)) hround'
      refine Program.ensures_bind.2 (hrest.mono (fun more ys hmore => ?_) fun _ hys => hys)
      rw [Program.ensures_pure, List.append_cons]
      exact hmore

lemma pairwise_distinctNames {names users : List Value} (h : distinctNames names = .ok users) :
    users.Pairwise fun a b => a.alike b = false := by
  unfold distinctNames at h
  cases hnames : names.mapM Fault.named with
  | error e =>
    rw [hnames] at h
    cases h
  | ok named =>
    rw [hnames] at h
    exact Except.ok.inj h ▸ pairwise_distinctBy Value.alike named

lemma eq_of_items_text {start : Nat} {vs : List Value} {users : List String}
    (h : Record.Checked.items Record.text start vs = .accepted users) :
    vs = users.map .text := by
  induction vs generalizing start users with
  | nil =>
    obtain rfl : [] = users := Record.Checked.accepted.inj h
    rfl
  | cons v rest ih =>
    rw [Record.Checked.items] at h
    cases hrest : Record.Checked.items Record.text (start + 1) rest with
    | refused issues =>
      rw [hrest] at h
      cases v <;> cases h
    | accepted more =>
      rw [hrest] at h
      cases v with
      | text u =>
        obtain rfl : u :: more = users := Record.Checked.accepted.inj h
        rw [ih hrest, List.map_cons]
      | _ => cases h

lemma notify_eq_of_notified {users : List String} (h : notified p = .ok users) :
    p.notify = users.map .text := by
  unfold notified at h
  cases hitems : Record.Checked.items Record.text 0 p.notify with
  | refused issues =>
    simp only [Record.list, hitems] at h
    cases h
  | accepted found =>
    simp only [Record.list, hitems] at h
    obtain rfl : found = users := Except.ok.inj h
    exact eq_of_items_text hitems

/-- The last part of a run withdraws, tells either those on the list or the managers, and withdraws
again. -/
theorem route_ensures (h : Enrolling logs s p xs) {notify : List String}
    (hnotify : notified p = .ok notify) :
    (route s p.created notify).Ensures xs
      (fun o ys => Conduct logs s ys ∧ Concluded s ys o) (Conduct logs s) := by
  have hlisted := h.listed
  rw [notify_eq_of_notified hnotify] at hlisted
  refine Program.ensures_request_bind.2 ⟨fun fault => ?_, fun n => ?_⟩
  · exact (h.telling.concat rfl).conduct isRound_nil (List.prefix_append (announced s []) _)
  have hopened : Telling logs s p (announced s []) (xs ++
      [⟨.withdraw NotificationType.pendingDecisions .submission (.text s.id), .ok n⟩]) :=
    h.telling.concat rfl
  have hclose : ∀ (sent : List NotificationRequest) (escalated : Bool) (ys : Talk),
      IsRound ([] ++ sent) ∧ Telling logs s p (announced s ([] ++ sent)) ys →
      (do
        let _ ← Plan.withdraw [.approveSubmission] .submission (.text s.id)
        return ⟨p.created, notify, sent, escalated⟩ : Plan Outcome).Ensures ys
        (fun o zs => Conduct logs s zs ∧ Concluded s zs o) (Conduct logs s) := by
    rintro sent escalated ys ⟨hround, htold⟩
    have hall : ∀ reply, Telling logs s p (agenda s sent)
        (ys ++ [⟨.withdraw [.approveSubmission] .submission (.text s.id), reply⟩]) :=
      fun _ => htold.concat rfl
    refine Program.ensures_request_bind.2 ⟨fun fault => ?_, fun m => ?_⟩
    · exact (hall (.error fault)).conduct hround (List.prefix_refl _)
    · exact ⟨(hall (.ok m)).conduct hround (List.prefix_refl _), (hall (.ok m)).created, hround,
        (hall (.ok m)).notices⟩
  split
  · simp only [pure_bind]
    have hasked : ∀ reply, Telling logs s p (announced s [])
        (_ ++ [⟨.managers (.text s.contextId), reply⟩]) := fun _ => hopened.concat rfl
    refine Program.ensures_request_bind.2 ⟨fun fault => ?_, fun managers => ?_⟩
    · exact (hasked (.error fault)).conduct isRound_nil (List.prefix_append _ _)
    refine Program.ensures_ofExcept_bind.2 ⟨fun _ _ => ?_, fun users husers => ?_⟩
    · exact (hasked (.ok managers)).conduct isRound_nil (List.prefix_append _ _)
    refine Program.ensures_bind.2 ((notifyAll_ensures [] (by simp)
      (pairwise_distinctNames husers) (hasked (.ok managers))).mono (fun sent ys hsent => ?_)
      fun _ hys => hys)
    exact hclose sent true ys hsent
  · simp only [pure_bind]
    refine Program.ensures_bind.2 ((notifyAll_ensures [] (by simp) hlisted hopened).mono
      (fun sent ys hsent => ?_) fun _ hys => hys)
    exact hclose sent false ys hsent

/-- Whatever the collaborators answer, a run behaves well, and what it says of an outcome is so. -/
theorem run_ensures (logs : Bool) (s : Submission) (submitter : Value) :
    (run logs s submitter).Ensures [] (fun o xs => Conduct logs s xs ∧ Concluded s xs o)
      (Conduct logs s) := by
  have hbroken : ∀ xs, Enrolled logs s xs → Conduct logs s xs := fun _ h => h.conduct
  unfold run
  refine Program.ensures_bind.2 ((enrollSingletons_ensures (enrolling_start logs s)).mono
    (fun p xs hp => ?_) hbroken)
  refine Program.ensures_bind.2 ((carrySubmitter_ensures hp submitter).mono (fun p xs hp => ?_)
    hbroken)
  refine Program.ensures_bind.2 ((enrollSubEditors_ensures hp).mono (fun p xs hp => ?_) hbroken)
  exact Program.ensures_ofExcept_bind.2
    ⟨fun _ _ => hp.toEnrolled.conduct, fun notify hnotify => route_ensures hp hnotify⟩

/-- A run of the routine against any collaborators: `serve` may answer any request in any way, from
what it remembers of the requests before, and may fail. -/
theorem run_conduct {σ : Type} (serve : (q : Request) → σ → Except Fault q.Answer × σ) (state : σ)
    (logs : Bool) (s : Submission) (submitter : Value) :
    Conduct logs s ((run logs s submitter).dialogue serve state) ∧
      ∀ o, ((run logs s submitter).run serve state).1 = .ok o →
        Concluded s ((run logs s submitter).dialogue serve state) o := by
  have h := (run_ensures logs s submitter).of_run serve state
  simp only [List.nil_append] at h
  refine ⟨?_, fun o ho => (h.1 o ho).2⟩
  cases hresult : ((run logs s submitter).run serve state).1 with
  | ok o => exact (h.1 o hresult).1
  | error e => exact h.2 e hresult

end Intake
end EditorialDesk
