import EditorialDesk.Intake.Routine
import EditorialDesk.Proofs.Intake.Roster
import EditorialDesk.Proofs.Value.Alike

/-!
# The account of a run

What a whole run of the routine answers and what it has written: its trials, and then
the notifications, withdrawn and sent. Outcome and wishes depend on the directory only,
not on the assignments; those decide which trials find a free seat.
-/
namespace EditorialDesk
namespace Intake

open Database Store

/-- The request to notify a user of a submission. -/
def requestTo (s : Submission) (type : NotificationType) (level : NotificationLevel)
    (userId : String) : NotificationRequest :=
  ⟨userId, type, some s.contextId, .submission, s.id, level⟩

/-- A user is sent a notification; it is stored unless the user is an orphan. -/
def Delivers (now : Calendar.Moment) (base : Database) (s : Submission) (type : NotificationType)
    (level : NotificationLevel) (userId : String) (d : Deed) : Prop :=
  ∃ place : Option Nat, d = .notifies now (requestTo s type level userId).notice place ∧
    (place = none ↔ Value.text userId ∈ base.orphans)

lemma eq_notifies_of_mem {now : Calendar.Moment} {base : Database} {s : Submission}
    {type : NotificationType} {level : NotificationLevel} {users : List String} {sent : List Deed}
    (h : List.Forall₂ (Delivers now base s type level) users sent) {d : Deed} (hd : d ∈ sent) :
    ∃ userId place, d = .notifies now (requestTo s type level userId).notice place := by
  induction h with
  | nil => cases hd
  | @cons userId _ _ _ hdeliver _ ih =>
    rcases List.mem_cons.1 hd with rfl | hd
    · obtain ⟨place, rfl, -⟩ := hdeliver
      exact ⟨userId, place, rfl⟩
    · exact ih hd

/-- Who is sent a notification: whoever is notified of the submission, or else all managers. -/
def recipients (base : Database) (s : Submission) : List String :=
  if (notifiedUsers base s).isEmpty then base.managers (.text s.contextId)
  else notifiedUsers base s

/-- The kind of these notifications. -/
def sentType (base : Database) (s : Submission) : NotificationType :=
  if (notifiedUsers base s).isEmpty then .editorAssignmentRequired else .submissionSubmitted

def sentLevel (base : Database) (s : Submission) : NotificationLevel :=
  if (notifiedUsers base s).isEmpty then .task else .normal

/-- What a run that ended with `o` in a state `u` has done. -/
structure Account (now : Calendar.Moment) (base : Database) (logs : Bool) (s : Submission)
    (o : Outcome) (ds : List Deed) (u : Database) where
  /-- The trials of single members. -/
  first : List Trial
  /-- The trials of what is carried over. -/
  carried : List Trial
  /-- The trials of sub-editors. -/
  last : List Trial
  /-- The wishes to carry somebody over. -/
  extra : List Wish
  sent : List Deed
  first_wishes : first.map (·.wish) = distinctOn Wish.key (singletonWishes base s)
  carried_wishes : (first ++ carried).map (·.wish) =
    distinctOn Wish.key (singletonWishes base s ++ extra)
  wishes : (first ++ carried ++ last).map (·.wish) =
    distinctOn Wish.key (singletonWishes base s ++ extra ++ subEditorWishes base s)
  carried_place : ∀ x ∈ carried, x.place = none
  taken : ∀ x ∈ first ++ carried ++ last,
    (x.wish.seat s).labels ∈ seats (u.rows Table.stageAssignments)
  sent_eq : List.Forall₂ (Delivers now base s (sentType base s) (sentLevel base s))
    (recipients base s) sent
  deeds : ds = (first ++ carried ++ last).flatMap (·.deeds now logs s) ++
    .withdraws NotificationType.pendingDecisions .submission (.text s.id) ::
      (sent ++ [.withdraws [.approveSubmission] .submission (.text s.id)])
  created : o.created = (first ++ carried ++ last).filterMap (·.assignment? now s)
  notifyUserIds : o.notifyUserIds = notifiedUsers base s
  notifications : o.notifications =
    (recipients base s).map (requestTo s (sentType base s) (sentLevel base s))
  escalated : o.escalated = (notifiedUsers base s).isEmpty

/-- The same submission with another progress and other dates. -/
def restamped (s : Submission) (progress : Int)
    (submitted active modified : Option Calendar.Moment) : Submission :=
  { s with progress, dateSubmitted := submitted, dateLastActivity := active,
           lastModified := modified }

variable {now : Calendar.Moment} {base : Database} {logs : Bool} {s : Submission}
variable {t : Database}

/-- A run looks at neither the progress of a submission nor its dates. -/
def Account.ofRestamped {progress : Int} {submitted active modified : Option Calendar.Moment}
    {o : Outcome} {ds : List Deed} {u : Database}
    (a : Account now base logs (restamped s progress submitted active modified) o ds u) :
    Account now base logs s o ds u where
  first := a.first
  carried := a.carried
  last := a.last
  extra := a.extra
  sent := a.sent
  first_wishes := a.first_wishes
  carried_wishes := a.carried_wishes
  wishes := a.wishes
  carried_place := a.carried_place
  taken := a.taken
  sent_eq := a.sent_eq
  deeds := a.deeds
  created := a.created
  notifyUserIds := a.notifyUserIds
  notifications := a.notifications
  escalated := a.escalated

/-- Users are notified in order, each of them once. -/
lemma notifyAll_meets (type : NotificationType) (level : NotificationLevel) (users : List String)
    (t : Database) :
    (notifyAll s type level (users.map .text)).Meets (serving now base) t fun r ds u =>
      Later t u ∧ r = users.map (requestTo s type level) ∧
        List.Forall₂ (Delivers now base s type level) users ds := by
  induction users generalizing t with
  | nil => exact ⟨.refl t, rfl, .nil⟩
  | cons userId rest ih =>
    have hrequest : requestFor s type level (.text userId) =
        .ok (requestTo s type level userId) := rfl
    rw [List.map_cons, notifyAll, hrequest, Program.meets_bind, Program.meets_ofExcept_ok]
    refine (Program.meets_request_bind _ _ _ _).2 ⟨rfl, ?_⟩
    rintro r es u ⟨hu, place, rfl, horphan⟩
    rw [Program.meets_bind]
    refine (ih u).mono ?_
    rintro sent fs v ⟨hv, rfl, hsent⟩
    refine ⟨hu.trans hv, rfl, ?_⟩
    refine List.Forall₂.cons ⟨place, rfl, ?_⟩ (by simpa using hsent)
    rw [horphan, List.any_eq_true]
    change (∃ v ∈ base.orphans, v.alike (.text userId) = true) ↔ _
    simp only [Value.alike_text_right]
    exact ⟨fun ⟨v, hv, he⟩ => he ▸ hv, fun h => ⟨_, h, rfl⟩⟩

/-- The managers are named by texts, each of them once. -/
lemma distinctNames_managers (base : Database) (contextId : Value) :
    distinctNames ((base.managers contextId).map .text) =
      .ok ((base.managers contextId).map .text) := by
  have hnodup : (base.managers contextId).Nodup := nodup_distinct _
  rw [distinctNames_text, distinct_of_nodup hnodup]

lemma route_meets (created : List StageAssignment) (t : Database) :
    (route s created (notifiedUsers base s)).Meets (serving now base) t fun o ds u => Later t u ∧
      ∃ sent, List.Forall₂ (Delivers now base s (sentType base s) (sentLevel base s))
          (recipients base s) sent ∧
        ds = .withdraws NotificationType.pendingDecisions .submission (.text s.id) ::
          (sent ++ [.withdraws [.approveSubmission] .submission (.text s.id)]) ∧
        o = ⟨created, notifiedUsers base s,
          (recipients base s).map (requestTo s (sentType base s) (sentLevel base s)),
          (notifiedUsers base s).isEmpty⟩ := by
  have hpending : NotificationType.pendingDecisions ≠ [] := by decide
  have happrove : [NotificationType.approveSubmission] ≠ [] := by decide
  unfold route recipients sentType sentLevel
  refine (Program.meets_request_bind _ _ _ _).2 ⟨hpending, ?_⟩
  rintro n es u ⟨hu, rfl⟩
  cases hempty : (notifiedUsers base s).isEmpty with
  | true =>
    simp only [if_true]
    refine (Program.meets_request_bind _ _ _ _).2 ⟨trivial, ?_⟩
    rintro r es v ⟨hv, rfl, rfl⟩
    rw [distinctNames_managers, Program.meets_bind, Program.meets_ofExcept_ok, Program.meets_bind]
    refine (notifyAll_meets .editorAssignmentRequired .task _ v).mono ?_
    rintro sent fs w ⟨hw, rfl, hsent⟩
    simp only [pure_bind]
    refine (Program.meets_request_bind _ _ _ _).2 ⟨happrove, ?_⟩
    rintro n gs x ⟨hx, rfl⟩
    exact ⟨((hu.trans hv).trans hw).trans hx, fs, hsent, by simp, rfl⟩
  | false =>
    simp only [Bool.false_eq_true, if_false]
    rw [Program.meets_bind]
    refine (notifyAll_meets .submissionSubmitted .normal _ u).mono ?_
    rintro sent fs w ⟨hw, rfl, hsent⟩
    simp only [pure_bind]
    refine (Program.meets_request_bind _ _ _ _).2 ⟨happrove, ?_⟩
    rintro n gs x ⟨hx, rfl⟩
    exact ⟨(hu.trans hw).trans hx, fs, hsent, by simp, rfl⟩

lemma items_text (xs : List String) (start : Nat) :
    Record.Checked.items Record.text start (xs.map .text) = .accepted xs := by
  induction xs generalizing start with
  | nil => rfl
  | cons x rest ih => simp [Record.Checked.items, ih, Record.text, Record.Checked.under,
      Record.Checked.map, Record.Checked.apply]

lemma notified_eq {p : Progress} {users : List String} (h : p.notify = users.map .text) :
    notified p = .ok users := by
  unfold notified
  rw [h]
  simp only [Record.list, items_text]
  rfl

/-- A run ends with an outcome, and there is an account of it. -/
theorem run_meets (submitter : Value) (t : Database) :
    (run logs s submitter).Meets (serving now base) t fun o ds u =>
      Nonempty (Account now base logs s o ds u) := by
  unfold run
  rw [Program.meets_bind]
  refine (enrollSingletons_meets t).mono ?_
  rintro p es u ⟨first, hfirst, hnotify⟩
  rw [Program.meets_bind]
  refine (carrySubmitter_meets hfirst submitter).mono ?_
  rintro p' fs v ⟨hnotify', extra, carried, hcarried, hplace⟩
  rw [Program.meets_bind]
  refine (enrollSubEditors_meets hcarried (hnotify'.trans hnotify)).mono ?_
  rintro p'' gs w ⟨last, hlast, hnotify''⟩
  rw [notified_eq hnotify'', Program.meets_bind, Program.meets_ofExcept_ok]
  refine (route_meets p''.created w).mono ?_
  rintro o hs x ⟨hx, sent, hsent, rfl, rfl⟩
  refine ⟨{
    first, carried, last, extra, sent
    first_wishes := hfirst.wishes
    carried_wishes := hcarried.wishes
    wishes := hlast.wishes
    carried_place := hplace
    taken := (hlast.later hx).taken
    sent_eq := hsent
    deeds := ?_
    created := hlast.created
    notifyUserIds := rfl
    notifications := rfl
    escalated := rfl }⟩
  rw [← hlast.deeds]
  simp

/-- What finalizing writes in front of the run: the row of the submission, and an entry in the log
if the step is noted. -/
inductive Prelude (now : Calendar.Moment) (s : Submission) (submitter : Value) : List Deed → Prop
  | finalized : Prelude now s submitter []
  | saved : Prelude now s submitter [.saves (finalizedAt s now)]
  | noted (line : Nat) : Prelude now s submitter
    (.saves (finalizedAt s now) :: Deed.logs now (submittedEvent s submitter) line)

lemma submittedEvent_accepted (submitter : Option String) : ∃ entry,
    LogEntry.ofEvent none now (submittedEvent s (.ofText? submitter)) = .accepted entry := by
  cases submitter with
  | none => exact ⟨_, rfl⟩
  | some id => exact ⟨_, rfl⟩

/-- Finalizing a submission that is within the authoring steps, or is finalized, ends with the
outcome of a run. A submission that was not finalized is stored as such first. -/
theorem finalize_meets {notes : Bool} (hs : s.isFinalizable = true ∨ s.progress = 0)
    (submitter : Option String) (t : Database) :
    (finalize logs notes (.shows now) s (.ofText? submitter)).Meets (serving now base) t
      fun f ds u => ∃ before during, ds = before ++ during ∧
        Prelude now s (.ofText? submitter) before ∧ (before = [] ↔ s.progress = 0) ∧
        Nonempty (Account now base logs s f.outcome during u) := by
  unfold finalize
  by_cases hfinalizable : s.isFinalizable = true
  · have hprogress : s.progress ≠ 0 := by
      intro h
      simp [Submission.isFinalizable, Submission.isFinalized, h] at hfinalizable
    rw [if_pos hfinalizable, Program.meets_bind]
    simp only [Reading.look, Program.meets_ofExcept_ok, List.nil_append]
    refine (Program.meets_request_bind _ _ _ _).2 ⟨⟨rfl, now, rfl⟩, ?_⟩
    rintro - es u ⟨-, rfl⟩
    by_cases hnotes : notes = true
    · simp only [if_pos hnotes]
      refine (Program.meets_request_bind _ _ _ _).2 ⟨submittedEvent_accepted submitter, ?_⟩
      rintro entry fs v ⟨-, line, rfl⟩
      rw [Program.meets_bind]
      refine Program.Meets.mono (run_meets (.ofText? submitter) v) ?_
      rintro o gs w ⟨account⟩
      refine ⟨_, gs, ?_, .noted line, by simp [hprogress], ⟨account.ofRestamped⟩⟩
      simp [submittedEvent, finalizedAt]
    · simp only [if_neg hnotes]
      rw [Program.meets_bind]
      refine Program.Meets.mono (run_meets (.ofText? submitter) u) ?_
      rintro o gs w ⟨account⟩
      exact ⟨_, gs, by simp, .saved, by simp [hprogress], ⟨account.ofRestamped⟩⟩
  · have hprogress : s.progress = 0 := hs.resolve_left hfinalizable
    have hfinalized : s.isFinalized = true := by simp [Submission.isFinalized, hprogress]
    rw [if_neg hfinalizable, if_pos hfinalized, Program.meets_bind]
    refine Program.Meets.mono (run_meets (.ofText? submitter) t) ?_
    rintro o gs w haccount
    exact ⟨[], gs, by simp, .finalized, by simp [hprogress], haccount⟩

end Intake
end EditorialDesk
