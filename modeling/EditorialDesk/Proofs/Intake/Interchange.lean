import EditorialDesk.Proofs.Intake.Account
import EditorialDesk.Proofs.Intake.Idempotence
import EditorialDesk.Proofs.Program.Lockstep
import EditorialDesk.Proofs.Store.Counterpart

/-!
# Interchangeable stores

A run of the intake on an orderly store in memory and a run on its mirror, side by side.
Their answers agree call by call, but for the assignments that are carried over: of these
each store lists its own, in its own order. Whatever a run does with them, their seats are
taken, so that nobody is enrolled and nobody noted. In the end both runs have created the
same places and notified the same users.
-/
namespace EditorialDesk

/-- Who takes part in what, and how; identity and date apart. -/
def StageAssignment.part (a : StageAssignment) : Seat × Bool := (a.seat, a.recommendOnly)

namespace Intake

open Database Store

variable {σ : Type} {serve : (q : Request) → σ → Except Fault q.Answer × σ} {inv : σ → Prop}
variable {taken : Seat → Prop} {logs : Bool} {s : Submission} {p p' q q' : Progress} {t : σ}
variable {m m' : Memory} {db db' : Database} {k k' : UtcMoment}

/-! ## Seats that are taken -/

/-- A store in states in which some seats are taken: it turns away enrolments for these, finds
groups under their identities and passes on notifications, and such states follow. -/
structure Settled (serve : (q : Request) → σ → Except Fault q.Answer × σ) (inv : σ → Prop)
    (taken : Seat → Prop) : Prop where
  enroll : ∀ {t x}, inv t → taken x → ∀ flag,
    ∃ u, serve (.enroll (x.asked flag)) t = (.ok none, u) ∧ inv u
  group : ∀ {t}, inv t → ∀ id,
    ∃ g u, serve (.group (.text id)) t = (.ok g, u) ∧ inv u ∧ ∀ x ∈ g, id = x.id
  notify : ∀ {t} {n : Notice}, inv t → n.userId.isName = true →
    ∃ r u, serve (.notify n) t = (.ok r, u) ∧ inv u

/-- An enrolment asks for a seat that is taken. -/
def IsVain (taken : Seat → Prop) (e : Enrollment) : Prop := ∃ x flag, e = x.asked flag ∧ taken x

lemma IsVain.mono {taken taken' : Seat → Prop} {e : Enrollment} (h : IsVain taken e)
    (hmono : ∀ x, taken x → taken' x) : IsVain taken' e := by
  obtain ⟨x, flag, rfl, hx⟩ := h
  exact ⟨x, flag, rfl, hmono x hx⟩

/-- A run has gone on, but has enrolled and noted nobody: it has asked for seats that are taken. -/
structure Passes (taken : Seat → Prop) (p q : Progress) : Prop where
  created : q.created = p.created
  notify : q.notify = p.notify
  seen : ∀ e ∈ q.seen, e ∈ p.seen ∨ IsVain taken e

lemma passes_refl (taken : Seat → Prop) (p : Progress) : Passes taken p p :=
  ⟨rfl, rfl, fun _ he => .inl he⟩

/-- A run that has tried a seat as well. -/
def Progress.trying (p : Progress) (x : Seat) (flag : Bool) : Progress :=
  { p with seen := p.seen ++ [x.asked flag] }

/-- What is done once an enrolment has been answered. -/
def afterEnroll (logs : Bool) (s : Submission) (p : Progress) (g : UserGroup) (userId : String) :
    Option StageAssignment → Plan Progress
  | none => pure p
  | some a =>
    if logs then do
      let _ ← Plan.log (participantEvent s.id g (.text userId))
      return { p with created := p.created ++ [a] }
    else return { p with created := p.created ++ [a] }

lemma enroll_text (logs : Bool) (s : Submission) (p : Progress) (g : UserGroup) (userId : String)
    (flag : Bool) : enroll logs s p g (.text userId) flag =
      if p.seen.any (·.sharesSeat (Seat.asked ⟨s.id, g.id, userId⟩ flag)) then pure p
      else Plan.enroll? (Seat.asked ⟨s.id, g.id, userId⟩ flag) >>=
        afterEnroll logs s (p.trying ⟨s.id, g.id, userId⟩ flag) g userId := by
  unfold enroll
  rw [Fault.named_text, Program.ofExcept_ok_bind]
  dsimp only
  congr 1

/-- An enrolment for a seat that is taken passes. -/
lemma enroll_passes (hx : Settled serve inv taken) (ht : inv t) (logs : Bool) (p : Progress)
    {g : UserGroup} {userId : String} (htaken : taken ⟨s.id, g.id, userId⟩) (flag : Bool) :
    ∃ q u, (enroll logs s p g (.text userId) flag).run serve t = (.ok q, u) ∧ inv u ∧
      Passes taken p q := by
  rw [enroll_text]
  split
  · exact ⟨p, t, rfl, ht, passes_refl taken p⟩
  · obtain ⟨u, hu, hinv⟩ := hx.enroll ht htaken flag
    refine ⟨_, u, Program.run_request_bind_of_ok hu, hinv, rfl, rfl, fun e he => ?_⟩
    rcases List.mem_append.1 he with he | he
    · exact .inl he
    · exact .inr ⟨_, flag, List.mem_singleton.1 he, htaken⟩

/-- Carrying over assignments whose seats are taken passes. -/
lemma carryFirstAuthor_passes (hx : Settled serve inv taken) (ht : inv t) (logs : Bool)
    (p : Progress) {found : List StageAssignment}
    (hfound : ∀ a ∈ found, a.seat.submissionId = s.id ∧ taken a.seat) :
    ∃ q u, (carryFirstAuthor logs s p found).run serve t = (.ok q, u) ∧ inv u ∧
      Passes taken p q := by
  induction found generalizing t with
  | nil => exact ⟨p, t, rfl, ht, passes_refl taken p⟩
  | cons a rest ih =>
    obtain ⟨⟨hid, hseat⟩, hrest⟩ := List.forall_mem_cons.1 hfound
    obtain ⟨g, u, hg, hu, hgroup⟩ := hx.group ht a.seat.groupId
    rw [carryFirstAuthor_cons, Plan.group?, Program.run_request_bind_of_ok hg]
    cases g with
    | none => exact ih hu hrest
    | some g =>
      by_cases hauthor : g.role = .author
      · have htaken : taken ⟨s.id, g.id, a.seat.userId⟩ := by
          rwa [← hid, ← hgroup g rfl]
        simp only [carryThrough, hauthor, beq_self_eq_true, if_true]
        exact enroll_passes hx hu logs p htaken false
      · rw [carryThrough_of_ne_author hauthor]
        exact ih hu hrest

lemma notifyAll_runs (hx : Settled serve inv taken) (ht : inv t) (type : NotificationType)
    (level : NotificationLevel) (users : List String) :
    ∃ u, (notifyAll s type level (users.map .text)).run serve t =
      (.ok (users.map (requestTo s type level)), u) ∧ inv u := by
  induction users generalizing t with
  | nil => exact ⟨t, rfl, ht⟩
  | cons userId rest ih =>
    have hrequest : requestFor s type level (.text userId) =
        .ok (requestTo s type level userId) := rfl
    obtain ⟨r, v, hr, hv⟩ := hx.notify (n := (requestTo s type level userId).notice) ht rfl
    obtain ⟨u, hrun, hu⟩ := ih hv
    refine ⟨u, ?_, hu⟩
    rw [List.map_cons, notifyAll, hrequest, Program.ofExcept_ok_bind, Plan.notify,
      Program.run_request_bind_of_ok hr]
    exact Program.run_bind_eq_ok.2 ⟨_, u, hrun, rfl⟩

/-- In memory, what is taken stays taken. -/
lemma settled_memory {contextId : String} (h : Paired contextId m db) (k : UtcMoment) :
    Settled (Memory.serve (.shows k)) m.Quiet m.IsTaken where
  enroll {n x} hn hx flag := by
    obtain ⟨n', -, hserve, -, hquiet, -⟩ :=
      (h.quiet_left hn).turned_away k k (hn.isTaken_iff.2 hx) flag
    exact ⟨n', hserve, hn.trans hquiet⟩
  group {n} hn id := by
    obtain ⟨g, n', -, -, hserve, -, hquiet, -, -, hgroup⟩ :=
      (h.quiet_left hn).answers k k (q := .group (.text id)) ⟨id, rfl⟩
    exact ⟨g, n', hserve, hn.trans hquiet, fun x hx => Value.text.inj (hgroup x hx)⟩
  notify {n notice} hn hname := by
    obtain ⟨r, n', -, -, hserve, -, hquiet, -⟩ :=
      (h.quiet_left hn).answers k k (q := .notify notice) hname
    exact ⟨r, n', hserve, hn.trans hquiet⟩

/-- In the database, what is taken in memory stays taken. -/
lemma settled_database {contextId : String} (h : Paired contextId m db) (k : UtcMoment) :
    Settled (fun q db => (session (.shows k) q).run db) (Quiet db) m.IsTaken where
  enroll {n x} hn hx flag := by
    obtain ⟨-, n', -, hrun, -, hquiet⟩ := (h.quiet_right hn).turned_away k k hx flag
    exact ⟨n', hrun, hn.trans hquiet⟩
  group {n} hn id := by
    obtain ⟨_, -, g, n', -, hrun, -, hquiet, heq, hgroup⟩ :=
      (h.quiet_right hn).answers k k (q := .group (.text id)) ⟨id, rfl⟩
    exact ⟨g, n', hrun, hn.trans hquiet, fun x hx => Value.text.inj (hgroup x (heq ▸ hx))⟩
  notify {n notice} hn hname := by
    obtain ⟨-, -, r, n', -, hrun, -, hquiet, -⟩ :=
      (h.quiet_right hn).answers k k (q := .notify notice) hname
    exact ⟨r, n', hrun, hn.trans hquiet⟩

/-! ## Two runs in step -/

/-- Two plans side by side, one on a store in memory and one on the database. -/
abbrev InStep {α β : Type} (k k' : UtcMoment) (plan : Plan α) (plan' : Plan β) (m : Memory)
    (db : Database) (post : α → β → Memory → Database → Prop) : Prop :=
  Program.SideBySide (Memory.serve (.shows k)) (fun q db => (session (.shows k') q).run db)
    plan plan' m db post

/-- How far two runs have come: they have created the same places and noted the same users. What
they have asked for need not be the same, but it is taken. -/
structure Abreast (s : Submission) (p p' : Progress) (m : Memory) (db : Database) : Prop
    extends Paired s.contextId m db where
  created : p.created.map (·.part) = p'.created.map (·.part)
  notify : p.notify = p'.notify
  users : ∃ names : List String, p.notify = names.map .text
  tried : ∀ e ∈ p.seen ++ p'.seen, IsVain m.IsTaken e

lemma Abreast.passes (h : Abreast s p p' m db) (hm : m.Quiet m') (hdb : Quiet db db')
    (hq : Passes m.IsTaken p q) (hq' : Passes m.IsTaken p' q') : Abreast s q q' m' db' where
  toPaired := h.toPaired.quiet hm hdb
  created := by rw [hq.created, hq'.created, h.created]
  notify := by rw [hq.notify, hq'.notify, h.notify]
  users := hq.notify ▸ h.users
  tried e he := by
    refine IsVain.mono ?_ fun x hx => hm.isTaken_iff.2 hx
    rcases List.mem_append.1 he with he | he
    · exact (hq.seen e he).elim (fun he => h.tried e (List.mem_append_left _ he)) id
    · exact (hq'.seen e he).elim (fun he => h.tried e (List.mem_append_right _ he)) id

lemma Abreast.quiet (h : Abreast s p p' m db) (hm : m.Quiet m') (hdb : Quiet db db') :
    Abreast s p p' m' db' :=
  h.passes hm hdb (passes_refl _ p) (passes_refl _ p')

lemma Abreast.note (h : Abreast s p p' m db) (userId : String) :
    Abreast s (p.note (.text userId)) (p'.note (.text userId)) m db := by
  obtain ⟨names, hnames⟩ := h.users
  unfold Progress.note
  rw [← h.notify]
  split
  · exact h
  · refine ⟨h.toPaired, h.created, rfl, ⟨names ++ [userId], ?_⟩, h.tried⟩
    rw [hnames, List.map_append]
    rfl

lemma Abreast.granted (h : Abreast s p p' m db) (hpaired : Paired s.contextId m' db') {x : Seat}
    {flag : Bool} {a b : StageAssignment} (hassignments : m'.assignments = m.assignments ++ [a])
    (ha : a.seat = x ∧ a.recommendOnly = flag) (hb : b.seat = x ∧ b.recommendOnly = flag) :
    Abreast s { p.trying x flag with created := p.created ++ [a] }
      { p'.trying x flag with created := p'.created ++ [b] } m' db' where
  toPaired := hpaired
  created := by
    rw [List.map_append, List.map_append, h.created, List.map_singleton, List.map_singleton,
      StageAssignment.part, StageAssignment.part, ha.1, ha.2, hb.1, hb.2]
  notify := h.notify
  users := h.users
  tried e he := by
    have htaken : ∀ {y}, m.IsTaken y ∨ a.seat = y → m'.IsTaken y :=
      (Memory.isTaken_concat hassignments).2
    have hcases : e ∈ p.seen ++ p'.seen ∨ e = x.asked flag := by
      simp only [Progress.trying, List.mem_append, List.mem_singleton] at he ⊢
      tauto
    rcases hcases with he | rfl
    · exact (h.tried e he).mono fun y hy => htaken (.inl hy)
    · exact ⟨x, flag, rfl, htaken (.inr ha.1)⟩

/-- An enrolment in both runs. If its seat is taken, each run may have tried it before or not; if it
is free, neither has, and both get it. -/
theorem enroll_inStep (h : Abreast s p p' m db) (g : UserGroup) (userId : String) (flag : Bool) :
    InStep k k' (enroll logs s p g (.text userId) flag) (enroll logs s p' g (.text userId) flag)
      m db (Abreast s) := by
  by_cases htaken : m.IsTaken ⟨s.id, g.id, userId⟩
  · obtain ⟨q, m', hrun, hm, hq⟩ :=
      enroll_passes (settled_memory h.toPaired k) m.quiet_refl logs p htaken flag
    obtain ⟨q', db', hrun', hdb, hq'⟩ :=
      enroll_passes (settled_database h.toPaired k') (.refl _ db) logs p' htaken flag
    exact ⟨q, m', q', db', hrun, hrun', h.passes hm hdb hq hq'⟩
  · have hnew : ∀ seen : List Enrollment, seen ⊆ p.seen ++ p'.seen →
        ¬seen.any (·.sharesSeat (Seat.asked ⟨s.id, g.id, userId⟩ flag)) = true := by
      intro seen hseen hany
      obtain ⟨e, he, hshares⟩ := List.any_eq_true.1 hany
      obtain ⟨x, flag', rfl, hx⟩ := h.tried e (hseen he)
      exact htaken (Seat.sharesSeat_asked.1 hshares ▸ hx)
    obtain ⟨a, m', b, db', hserve, hrun, hpaired, hassignments, ha, hb⟩ :=
      h.enrolled k k' htaken flag
    rw [enroll_text, enroll_text, if_neg (hnew p.seen (List.subset_append_left _ _)),
      if_neg (hnew p'.seen (List.subset_append_right _ _))]
    refine Program.sideBySide_request_bind hserve hrun ?_
    have hdone := h.granted hpaired hassignments ha hb
    cases logs with
    | false => exact Program.sideBySide_pure hdone
    | true =>
      obtain ⟨entry, n, entry', dbn, hlog, hlog', hn, hdbn, -⟩ :=
        hpaired.answers k k' (q := .log (participantEvent s.id g (.text userId)))
          fun now => ⟨_, rfl⟩
      exact Program.sideBySide_request_bind hlog hlog'
        (Program.sideBySide_pure (hdone.quiet hn hdbn))

lemma enrollSingleton_inStep (h : Abreast s p p' m db) (g : UserGroup) :
    InStep k k' (enrollSingleton logs s p g) (enrollSingleton logs s p' g) m db (Abreast s) := by
  unfold enrollSingleton
  split
  · obtain ⟨users, m', users', db', hserve, hrun, hm, hdb, rfl, htexts⟩ :=
      h.answers k k' (q := .members (.text g.id) (.text s.contextId)) ⟨⟨_, rfl⟩, _, rfl⟩
    refine Program.sideBySide_request_bind hserve hrun ?_
    have h' := h.quiet hm hdb
    split
    · next userId =>
      obtain ⟨userId, rfl⟩ := htexts _ List.mem_cons_self
      exact (enroll_inStep h' g userId _).bind fun q q' n dbn hq =>
        Program.sideBySide_pure (hq.note userId)
    · exact Program.sideBySide_pure h'
  · exact Program.sideBySide_pure h

theorem enrollSingletons_inStep (h : Abreast s p p' m db) :
    InStep k k' (enrollSingletons logs s p) (enrollSingletons logs s p') m db (Abreast s) := by
  obtain ⟨groups, m', groups', db', hserve, hrun, hm, hdb, rfl⟩ :=
    h.answers k k' (q := .groupsForStage (.text s.contextId) .intake) ⟨_, rfl⟩
  refine Program.sideBySide_request_bind hserve hrun ?_
  exact Program.sideBySide_foldlM (fun g _ q q' n dbn hq => enrollSingleton_inStep hq g)
    (h.quiet hm hdb)

/-- The submitter is carried over, perhaps through different assignments. -/
theorem carrySubmitter_inStep (h : Abreast s p p' m db) (submitter : Value) :
    InStep k k' (carrySubmitter logs s submitter p) (carrySubmitter logs s submitter p') m db
      (Abreast s) := by
  unfold carrySubmitter
  split
  · obtain ⟨found, m', found', db', hserve, hrun, hm, hdb, hfound⟩ :=
      h.answers k k' (q := ownAssignments s.id submitter) ⟨⟨_, rfl⟩, rfl⟩
    refine Program.sideBySide_request_bind hserve hrun ?_
    have h' := h.quiet hm hdb
    have hseats : ∀ a ∈ found ++ found', a.seat.submissionId = s.id ∧ m'.IsTaken a.seat :=
      fun a ha => ⟨(Value.text.inj (hfound a ha).1).symm, hm.isTaken_iff.2 (hfound a ha).2⟩
    obtain ⟨q, n, hcarry, hn, hq⟩ :=
      carryFirstAuthor_passes (settled_memory h'.toPaired k) m'.quiet_refl logs p
        fun a ha => hseats a (List.mem_append_left _ ha)
    obtain ⟨q', dbn, hcarry', hdbn, hq'⟩ :=
      carryFirstAuthor_passes (settled_database h'.toPaired k') (.refl _ db') logs p'
        fun a ha => hseats a (List.mem_append_right _ ha)
    exact ⟨q, n, q', dbn, hcarry, hcarry', h'.passes hn hdbn hq hq'⟩
  · exact Program.sideBySide_pure h

/-- Both runs find the same candidates, who are named by texts. -/
def SameCandidates (s : Submission) (p p' : Progress) (cs cs' : List Candidate) (m : Memory)
    (db : Database) : Prop :=
  cs = cs' ∧ (∀ c ∈ cs, ∃ name, c.userId = .text name) ∧ Abreast s p p' m db

lemma groupingCandidates_inStep {cs cs' : List Candidate} {grouping : Grouping}
    (h : SameCandidates s p p' cs cs' m db) (hid : ∃ id, grouping.id = .text id) :
    InStep k k' (groupingCandidates s.contextId cs grouping)
      (groupingCandidates s.contextId cs' grouping) m db (SameCandidates s p p') := by
  obtain ⟨rfl, htexts, habreast⟩ := h
  obtain ⟨users, m', users', db', hserve, hrun, hm, hdb, rfl, husers⟩ :=
    habreast.answers k k' (q := .subEditors grouping (.text s.contextId)) ⟨hid, rfl⟩
  refine Program.sideBySide_request_bind hserve hrun ?_
  refine Program.sideBySide_foldlM (fun userId huser cs cs' n dbn hcs => ?_)
    ⟨rfl, htexts, habreast.quiet hm hdb⟩
  obtain ⟨rfl, htexts, habreast⟩ := hcs
  obtain ⟨name, rfl⟩ := husers userId huser
  obtain ⟨groups, n', groups', dbn', hserve, hrun, hn, hdbn, rfl⟩ :=
    habreast.answers k k' (q := .groupsForUser (.text name) (.text s.contextId))
      ⟨⟨_, rfl⟩, _, rfl⟩
  refine Program.sideBySide_request_bind hserve hrun ?_
  have habreast' := habreast.quiet hn hdbn
  cases groups.filter (·.role == .subEditor) with
  | nil => exact Program.sideBySide_pure ⟨rfl, htexts, habreast'⟩
  | cons g rest =>
    have htexts' := forall_mem_addCandidates htexts fun g' (_ : g' ∈ g :: rest) => ⟨name, rfl⟩
    exact Program.sideBySide_pure ⟨rfl, htexts', habreast'⟩

theorem candidates_inStep (h : Abreast s p p' m db) :
    InStep k k' (candidates s) (candidates s) m db (SameCandidates s p p') := by
  refine Program.sideBySide_foldlM (fun grouping hgrouping cs cs' n dbn hcs => ?_)
    ⟨rfl, fun _ hc => absurd hc List.not_mem_nil, h⟩
  refine groupingCandidates_inStep hcs ?_
  rcases mem_groupings.1 hgrouping with ⟨id, -, -, rfl⟩ | ⟨id, -, rfl⟩
  · exact ⟨id, rfl⟩
  · exact ⟨id, rfl⟩

theorem enrollSubEditors_inStep (h : Abreast s p p' m db) :
    InStep k k' (enrollSubEditors logs s p) (enrollSubEditors logs s p') m db (Abreast s) := by
  refine (candidates_inStep h).bind fun cs cs' m db hcs => ?_
  obtain ⟨rfl, htexts, habreast⟩ := hcs
  refine Program.sideBySide_foldlM (fun c hc q q' n dbn hq => ?_) habreast
  obtain ⟨name, hname⟩ := htexts c hc
  unfold enrollCandidate
  rw [hname]
  refine (enroll_inStep hq c.group name _).bind fun r r' n dbn hr => Program.sideBySide_pure ?_
  split
  · exact hr.note name
  · exact hr

/-- What two outcomes have in common: the places that were created, and who was notified; if it was
the managers, perhaps in another order. -/
structure Outcome.Matches (o o' : Outcome) : Prop where
  created : o.created.map (·.part) = o'.created.map (·.part)
  notifyUserIds : o.notifyUserIds = o'.notifyUserIds
  escalated : o.escalated = o'.escalated
  notifications : o.escalated = false → o.notifications = o'.notifications
  perm : o.notifications.Perm o'.notifications

lemma notifyAll_inStep (h : Paired s.contextId m db) (type : NotificationType)
    (level : NotificationLevel) (users users' : List String) :
    InStep k k' (notifyAll s type level (users.map .text))
      (notifyAll s type level (users'.map .text)) m db fun sent sent' n dbn =>
        Paired s.contextId n dbn ∧ sent = users.map (requestTo s type level) ∧
          sent' = users'.map (requestTo s type level) := by
  obtain ⟨n, hrun, hn⟩ := notifyAll_runs (settled_memory h k) m.quiet_refl type level users
  obtain ⟨dbn, hrun', hdbn⟩ :=
    notifyAll_runs (settled_database h k') (.refl _ db) type level users'
  exact ⟨_, n, _, dbn, hrun, hrun', h.quiet hn hdbn, rfl, rfl⟩

theorem route_inStep (h : Paired s.contextId m db) {created created' : List StageAssignment}
    (hcreated : created.map (·.part) = created'.map (·.part)) (users : List String) :
    InStep k k' (route s created users) (route s created' users) m db fun o o' n dbn =>
      o.Matches o' ∧ Paired s.contextId n dbn := by
  have hclose : ∀ {sent sent' : List NotificationRequest} {escalated : Bool} {n dbn},
      Paired s.contextId n dbn → (escalated = false → sent = sent') → sent.Perm sent' →
      InStep k k' (do
        let _ ← Plan.withdraw [.approveSubmission] .submission (.text s.id)
        return ⟨created, users, sent, escalated⟩ : Plan Outcome) (do
        let _ ← Plan.withdraw [.approveSubmission] .submission (.text s.id)
        return ⟨created', users, sent', escalated⟩ : Plan Outcome) n dbn
        fun o o' n dbn => o.Matches o' ∧ Paired s.contextId n dbn := by
    intro sent sent' escalated n dbn hpaired hsent hperm
    obtain ⟨count, n', count', dbn', hserve, hrun, hn, hdbn, -⟩ := hpaired.answers k k'
      (q := .withdraw [.approveSubmission] .submission (.text s.id)) (List.cons_ne_nil _ _)
    exact Program.sideBySide_request_bind hserve hrun
      (Program.sideBySide_pure ⟨⟨hcreated, rfl, rfl, hsent, hperm⟩, hpaired.quiet hn hdbn⟩)
  obtain ⟨count, m', count', db', hserve, hrun, hm, hdb, -⟩ := h.answers k k'
    (q := .withdraw NotificationType.pendingDecisions .submission (.text s.id))
    (show NotificationType.pendingDecisions ≠ [] by decide)
  refine Program.sideBySide_request_bind hserve hrun ?_
  have h' := h.quiet hm hdb
  dsimp only
  split
  · obtain ⟨_, m'', _, db'', hserve, hrun, hm', hdb', names, names', rfl, rfl, hnodup, hperm⟩ :=
      h'.answers k k' (q := .managers (.text s.contextId)) ⟨_, rfl⟩
    refine Program.sideBySide_request_bind hserve hrun ?_
    rw [distinctNames_text, distinctNames_text, distinct_of_nodup hnodup,
      distinct_of_nodup (hperm.nodup_iff.1 hnodup), Program.ofExcept_ok_bind,
      Program.ofExcept_ok_bind]
    have h'' := h'.quiet hm' hdb'
    refine (notifyAll_inStep h'' _ _ names names').bind fun sent sent' n dbn hsent => ?_
    obtain ⟨hpaired, rfl, rfl⟩ := hsent
    simp only [pure_bind]
    exact hclose hpaired (by simp) (hperm.map _)
  · refine (notifyAll_inStep h' _ _ users users).bind fun sent sent' n dbn hsent => ?_
    obtain ⟨hpaired, rfl, rfl⟩ := hsent
    simp only [pure_bind]
    exact hclose hpaired (fun _ => rfl) (.refl _)

/-- A run on an orderly store in memory and a run on its mirror, each at a moment of its own, come
to outcomes that match. The store is orderly again, and the database its mirror. -/
theorem run_interchangeable (s : Submission) (m : Memory) (hm : m.Orderly) (db : Database)
    (hdb : Mirrors m s.contextId db) (logs : Bool) (submitter : Value) (k k' : UtcMoment) :
    ∃ o m' o' db', runInMemory logs s submitter k m = (.ok o, m') ∧
      runInDatabase logs s submitter k' db = (.ok o', db') ∧ o.Matches o' ∧
        m'.Orderly ∧ Mirrors m' s.contextId db' := by
  have hstart : Abreast s .start .start m db :=
    ⟨⟨hm, hdb⟩, rfl, rfl, ⟨[], rfl⟩, fun _ he => absurd he List.not_mem_nil⟩
  have hrun : InStep k k' (run logs s submitter) (run logs s submitter) m db
      fun o o' n dbn => o.Matches o' ∧ Paired s.contextId n dbn := by
    unfold run
    refine (enrollSingletons_inStep hstart).bind fun p p' m db hp => ?_
    refine (carrySubmitter_inStep hp submitter).bind fun p p' m db hp => ?_
    refine (enrollSubEditors_inStep hp).bind fun p p' m db hp => ?_
    obtain ⟨users, husers⟩ := hp.users
    rw [notified_eq husers, notified_eq (hp.notify ▸ husers), Program.ofExcept_ok_bind,
      Program.ofExcept_ok_bind]
    exact route_inStep hp.toPaired hp.created users
  obtain ⟨o, m', o', db', hmemory, hdatabase, hmatch, hpaired⟩ := hrun
  refine ⟨o, m', o', db', hmemory, ?_, hmatch, hpaired.orderly, hpaired.mirrors⟩
  rw [runInDatabase, run_sessionOf]
  exact hdatabase

lemma isUserList_singleton {name : String} (h : name ≠ "") : IsUserList [.text name] :=
  ⟨[name], rfl, List.pairwise_singleton _ _, fun he => h (List.mem_singleton.1 he).symm⟩

lemma cabinet_orderly : cabinet.Orderly where
  outages := rfl
  names r hr := by
    rcases List.mem_pair.1 hr with rfl | rfl
    · exact ⟨by decide, by decide⟩
    · exact ⟨by decide, by decide⟩
  stages r hr := by
    rcases List.mem_pair.1 hr with rfl | rfl
    · rfl
    · rfl
  groups := by decide
  members r hr := by
    rcases List.mem_pair.1 hr with rfl | rfl
    · exact isUserList_singleton (by decide)
    · exact isUserList_singleton (by decide)
  groupings b hb := by
    obtain rfl := List.mem_singleton.1 hb
    exact ⟨"sec-1", rfl, by decide⟩
  bindings type id := by
    have hbound : cabinet.boundTo type id =
        if (⟨.journalSection, .text "sec-1"⟩ : Grouping) == ⟨type, .text id⟩ then [.text "u-2"]
        else [] := by
      unfold Memory.boundTo
      simp only [cabinet, List.filter_cons, List.filter_nil]
      split <;> rfl
    rw [hbound]
    split
    · exact isUserList_singleton (by decide)
    · exact ⟨[], rfl, .nil, List.not_mem_nil⟩

/-- The manager of the small office submits a paper, on the store in memory and on its mirror. -/
theorem cabinet_interchangeable : cabinet.Orderly ∧
    Mirrors cabinet paper.contextId (cabinet.mirror paper.contextId) ∧
    ∃ o m' o' db', runInMemory true paper (.text "u-1") ⟨dawn, rfl⟩ cabinet = (.ok o, m') ∧
      runInDatabase true paper (.text "u-1") ⟨dawn, rfl⟩ (cabinet.mirror paper.contextId) =
        (.ok o', db') ∧
      o'.created.map (·.part) =
        [(⟨"sub-1", "g-1", "u-1"⟩, false), (⟨"sub-1", "g-2", "u-2"⟩, false)] ∧
      o'.notifications = o.notifications := by
  have hmirrors := mirror_mirrors cabinet paper.contextId
  obtain ⟨o, m', o', db', hmemory, hdatabase, hmatch, -⟩ :=
    run_interchangeable paper cabinet cabinet_orderly (cabinet.mirror paper.contextId) hmirrors
      true (.text "u-1") ⟨dawn, rfl⟩ ⟨dawn, rfl⟩
  obtain ⟨p, n, hrun, hcreated, hescalated⟩ : ∃ p n,
      runInMemory true paper (.text "u-1") ⟨dawn, rfl⟩ cabinet = (.ok p, n) ∧
        p.created.map (·.part) =
          [(⟨"sub-1", "g-1", "u-1"⟩, false), (⟨"sub-1", "g-2", "u-2"⟩, false)] ∧
        p.escalated = false := ⟨_, _, rfl, rfl, rfl⟩
  obtain rfl : p = o := Except.ok.inj (congrArg Prod.fst (hrun.symm.trans hmemory))
  exact ⟨cabinet_orderly, hmirrors, p, m', o', db', hmemory, hdatabase,
    hmatch.created ▸ hcreated, (hmatch.notifications hescalated).symm⟩

end Intake
end EditorialDesk
