import EditorialDesk.Proofs.Intake.Enrollment
import EditorialDesk.Proofs.Store.Silence

/-!
# Runs on silent databases

A run only passes new assignments on to its outcome. However it is told of them, it puts the
same requests and notes the same users. So a database that leaves out its answers to what is
written to some tables sees the same queries, and is left as if it had answered; the
outcome is the same, but for the identities of new assignments.
-/
namespace EditorialDesk.Intake

open Database Store
open Program (Lockstep)

/-- A run that is told of new assignments in other words. -/
def Progress.retold (f : StageAssignment → StageAssignment) (p : Progress) : Progress :=
  { p with created := p.created.map f }

/-- What a run has done, told in other words. -/
def Outcome.retold (f : StageAssignment → StageAssignment) (o : Outcome) : Outcome :=
  { o with created := o.created.map f }

variable {α β γ δ : Type} {f : StageAssignment → StageAssignment} {logs : Bool} {s : Submission}

lemma Progress.note_retold (p : Progress) (userId : Value) :
    (p.retold f).note userId = (p.note userId).retold f := by
  have hnotify : (p.retold f).notify = p.notify := rfl
  unfold note
  rw [hnotify]
  split <;> rfl

/-- Two plans put the same requests if new assignments are told to the second in other words; its
result is then that of the first, with a change. -/
abbrev Retells (f : StageAssignment → StageAssignment) (change : α → β) (plan : Plan α)
    (plan' : Plan β) : Prop :=
  Lockstep (Request.Retold f) (fun a b => b = change a) plan plan'

section Rules

variable {change : α → β} {change' : γ → δ}

lemma Retells.bind {plan : Plan α} {plan' : Plan β} (h : Retells f change plan plan')
    {next : α → Plan γ} {next' : β → Plan δ}
    (hnext : ∀ a, Retells f change' (next a) (next' (change a))) :
    Retells f change' (plan >>= next) (plan' >>= next') :=
  Lockstep.bind h fun a b hab => by
    rw [hab]
    exact hnext a

/-- What is looked up is told in the same words. -/
lemma retells_lookup_bind {q : Request} (hq : q.Retold f = fun r r' => r' = r)
    {next : q.Answer → Plan α} {next' : q.Answer → Plan β}
    (h : ∀ r, Retells f change (next r) (next' r)) :
    Retells f change (Program.request q >>= next) (Program.request q >>= next') :=
  Program.lockstep_request_bind fun r r' hr => by
    rw [hq] at hr
    rw [hr]
    exact h r

lemma retells_foldlM {κ : Type} {step : α → κ → Plan α} {step' : β → κ → Plan β}
    (hstep : ∀ a x, Retells f change (step a x) (step' (change a) x)) (items : List κ) (a : α) :
    Retells f change (items.foldlM step a) (items.foldlM step' (change a)) :=
  Program.lockstep_foldlM (fun x _ a b hab => by rw [hab]; exact hstep a x) rfl

end Rules

lemma enroll_retells (p : Progress) (g : UserGroup) (userId : Value) (recommendOnly : Bool) :
    Retells f (Progress.retold f) (enroll logs s p g userId recommendOnly)
      (enroll logs s (p.retold f) g userId recommendOnly) := by
  have hseen : (p.retold f).seen = p.seen := rfl
  unfold enroll
  refine Program.lockstep_ofExcept_bind fun u _ => ?_
  dsimp only
  rw [hseen]
  split
  · exact .done rfl
  · refine Program.lockstep_request_bind fun r r' hr => ?_
    obtain rfl : r' = r.map f := hr
    cases r with
    | none => exact .done rfl
    | some a =>
      have hcreated : (p.retold f).created ++ [f a] = (p.created ++ [a]).map f := by
        rw [List.map_append]
        rfl
      dsimp only [Option.map_some]
      rw [hcreated]
      split
      · exact Program.lockstep_request_bind fun _ _ _ => .done rfl
      · exact .done rfl

lemma enrollSingleton_retells (p : Progress) (g : UserGroup) :
    Retells f (Progress.retold f) (enrollSingleton logs s p g)
      (enrollSingleton logs s (p.retold f) g) := by
  unfold enrollSingleton
  split
  · refine retells_lookup_bind rfl fun members => ?_
    split
    · exact (enroll_retells p g _ _).bind fun q => .done (q.note_retold _)
    · exact .done rfl
  · exact .done rfl

lemma enrollSingletons_retells (p : Progress) :
    Retells f (Progress.retold f) (enrollSingletons logs s p)
      (enrollSingletons logs s (p.retold f)) :=
  retells_lookup_bind rfl fun groups => retells_foldlM enrollSingleton_retells groups p

lemma carryFirstAuthor_retells (p : Progress) (existing : List StageAssignment) :
    Retells f (Progress.retold f) (carryFirstAuthor logs s p existing)
      (carryFirstAuthor logs s (p.retold f) existing) := by
  induction existing with
  | nil => exact .done rfl
  | cons a rest ih =>
    refine retells_lookup_bind rfl fun found => ?_
    cases found with
    | none => exact ih
    | some g =>
      dsimp only
      split
      · exact enroll_retells p g _ _
      · exact ih

lemma carrySubmitter_retells (p : Progress) (submitter : Value) :
    Retells f (Progress.retold f) (carrySubmitter logs s submitter p)
      (carrySubmitter logs s submitter (p.retold f)) := by
  unfold carrySubmitter
  split
  · exact retells_lookup_bind rfl fun existing => carryFirstAuthor_retells p existing
  · exact .done rfl

/-- Candidates are found by look-ups alone. -/
lemma candidates_retells : Retells f id (candidates s) (candidates s) := by
  refine retells_foldlM (fun found grouping => ?_) (groupings s) []
  refine retells_lookup_bind rfl fun users => retells_foldlM (fun found userId => ?_) users found
  refine retells_lookup_bind rfl fun groups => ?_
  dsimp only [id]
  split
  · exact .done rfl
  · exact Program.lockstep_ofExcept_bind fun _ _ => .done rfl

lemma enrollCandidate_retells (p : Progress) (c : Candidate) :
    Retells f (Progress.retold f) (enrollCandidate logs s p c)
      (enrollCandidate logs s (p.retold f) c) := by
  refine (enroll_retells p c.group _ _).bind fun q => .done ?_
  split
  · exact q.note_retold _
  · rfl

lemma enrollSubEditors_retells (p : Progress) :
    Retells f (Progress.retold f) (enrollSubEditors logs s p)
      (enrollSubEditors logs s (p.retold f)) :=
  candidates_retells.bind fun found => retells_foldlM enrollCandidate_retells found p

/-- Whatever becomes of a notification, the next user is notified. -/
lemma notifyAll_retells (type : NotificationType) (level : NotificationLevel) (users : List Value) :
    Retells f id (notifyAll s type level users) (notifyAll s type level users) := by
  induction users with
  | nil => exact .done rfl
  | cons userId rest ih =>
    refine Program.lockstep_ofExcept_bind fun request _ => ?_
    refine Program.lockstep_request_bind fun _ _ _ => ?_
    exact ih.bind fun sent => .done rfl

lemma route_retells (created : List StageAssignment) (notify : List String) :
    Retells f (Outcome.retold f) (route s created notify) (route s (created.map f) notify) := by
  refine Program.lockstep_request_bind fun _ _ _ => ?_
  have hclose : ∀ (sent : List NotificationRequest) (escalated : Bool),
      Retells f (Outcome.retold f)
        (do
          let _ ← Plan.withdraw [.approveSubmission] .submission (.text s.id)
          return (⟨created, notify, sent, escalated⟩ : Outcome))
        (do
          let _ ← Plan.withdraw [.approveSubmission] .submission (.text s.id)
          return (⟨created.map f, notify, sent, escalated⟩ : Outcome)) := fun _ _ =>
    Program.lockstep_request_bind fun _ _ _ => .done rfl
  split
  · simp only [pure_bind]
    refine retells_lookup_bind rfl fun managers => ?_
    refine Program.lockstep_ofExcept_bind fun users _ => ?_
    exact (notifyAll_retells _ _ users).bind fun sent => hclose sent true
  · simp only [pure_bind]
    exact (notifyAll_retells _ _ _).bind fun sent => hclose sent false

/-- However a run is told of new assignments, it asks the same of its collaborators. -/
theorem run_retells (f : StageAssignment → StageAssignment) (logs : Bool) (s : Submission)
    (submitter : Value) :
    Retells f (Outcome.retold f) (run logs s submitter) (run logs s submitter) :=
  (enrollSingletons_retells .start).bind fun p =>
    (carrySubmitter_retells p submitter).bind fun p =>
      (enrollSubEditors_retells p).bind fun p =>
        Program.lockstep_ofExcept_bind fun users _ => route_retells p.created users

/-- A run does not depend on the database telling what was written. On a sound database it comes to
an outcome. Where some tables are silent it puts the same queries, one after the other and
with all that they hold, leaves the same state, and comes to the same outcome, in which new
assignments have no identity if their table is silent. -/
theorem run_silent {db : Database} (h : db.Sound) {now : Calendar.Moment}
    (hnow : now.offset = some .utc) (x : Silence) (logs : Bool) (s : Submission)
    (submitter : Value) :
    ∃ o db', (sessionOf (.shows now) (run logs s submitter)).run db = (.ok o, db') ∧
      Session.runOn x.perform (sessionOf (.shows now) (run logs s submitter)) db =
        (.ok (o.retold x.told), db') ∧
      Session.calls x.perform (sessionOf (.shows now) (run logs s submitter)) db =
        Session.calls Database.perform (sessionOf (.shows now) (run logs s submitter)) db := by
  obtain ⟨o, -, db', hrun, -⟩ := run_alone h hnow logs s submitter
  have hstep := (run_retells x.told logs s submitter).via (session_lockstep x hnow)
  obtain ⟨_, hsilent, rfl, hcalls⟩ := Session.runOn_of_lockstep hstep h.toPlain hrun
  exact ⟨o, db', hrun, hsilent, hcalls⟩

/-- Nothing is told of what is written, except for what is written to the directory. -/
def hushed : Silence where
  tables table := table ∉ Table.directory
  blank _ _ := .null
  absent _ _ := rfl

/-- In the small office manager and sub-editor are enrolled and logged; where nothing is told of
that, only the identities of the assignments are missed. -/
theorem office_silent : office.Sound ∧ dawn.offset = some .utc ∧ ∃ o o' db',
    (sessionOf (.shows dawn) (run true paper .null)).run office = (.ok o, db') ∧
      Session.runOn hushed.perform (sessionOf (.shows dawn) (run true paper .null)) office =
        (.ok o', db') ∧
      Session.calls hushed.perform (sessionOf (.shows dawn) (run true paper .null)) office =
        Session.calls Database.perform (sessionOf (.shows dawn) (run true paper .null)) office ∧
      o.created.map (·.id) = [some "stage_assignments-1", some "stage_assignments-2"] ∧
      o'.created.map (·.id) = [none, none] := by
  have hdawn : dawn.offset = some .utc := rfl
  obtain ⟨o, db', hrun, hsilent, hcalls⟩ :=
    run_silent office_wellFormed.sound hdawn hushed true paper .null
  have hids : ((sessionOf (.shows dawn) (run true paper .null)).run office).1.toOption.map
      (fun o => o.created.map (·.id)) =
        some [some "stage_assignments-1", some "stage_assignments-2"] := by decide +kernel
  rw [hrun] at hids
  have hcreated : o.created.map (·.id) =
      [some "stage_assignments-1", some "stage_assignments-2"] := Option.some.inj hids
  have htold : ∀ a : StageAssignment, (hushed.told a).id = none := fun a => rfl
  refine ⟨office_wellFormed.sound, hdawn, o, _, db', hrun, hsilent, hcalls, hcreated, ?_⟩
  calc (o.retold hushed.told).created.map (·.id)
      = (o.created.map (·.id)).map fun _ => none := by
        simp only [Outcome.retold, List.map_map, Function.comp_def, htold]
    _ = [none, none] := by rw [hcreated]; rfl

end EditorialDesk.Intake
