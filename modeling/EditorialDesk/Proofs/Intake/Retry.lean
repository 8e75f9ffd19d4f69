import EditorialDesk.Proofs.Database.Standing
import EditorialDesk.Proofs.Intake.Overlap
import EditorialDesk.Proofs.Store.Surrender

/-!
# Failure and retry

Finalizing a submission can fail at any query. It then ends with the fault of that query,
and what it has done stays done. To finalize the submission again, as it stands then, is to
come to the same assignments and the same outcome as without the failure: seats that are
taken are passed over, and the others are taken in the same order.
-/
namespace EditorialDesk.Intake

open Database Store

/-- The session that finalizes a submission. -/
def finalizing (now : Calendar.Moment) (logs notes : Bool) (submitter : Option String)
    (s : Submission) : Session Finalized :=
  sessionOf (.shows now) (finalize logs notes (.shows now) s (.ofText? submitter))

/-- What finalizing a submission has done: first to its row and the log, and then in a run. -/
structure Completed (now : Calendar.Moment) (base : Database) (logs : Bool) (s : Submission)
    (submitter : Option String) (o : Outcome) (ds : List Deed) (u : Database) where
  before : List Deed
  during : List Deed
  deeds : ds = before ++ during
  opening : Prelude now s (.ofText? submitter) before
  finalized : before = [] ↔ s.progress = 0
  account : Account now base logs s o during u

variable {now : Calendar.Moment} {base t u : Database} {logs notes : Bool} {s : Submission}
variable {submitter : Option String} {o o' : Outcome} {ds ds' : List Deed}

lemma finalizing_meets (hbase : base.Sound) (hnow : now.offset = some .utc)
    (hs : s.progress = 0 ∨ s.progress ≤ Submission.finalStep) (ht : Later base t) :
    (finalizing now logs notes submitter s).Meets overlapping t fun f ds u =>
      Nonempty (Completed now base logs s submitter f.outcome ds u) := by
  have hfinal : s.isFinalizable = true ∨ s.progress = 0 := by
    by_cases hzero : s.progress = 0
    · exact .inr hzero
    · refine .inl ?_
      simpa [Submission.isFinalizable, Submission.isFinalized, hzero] using hs.resolve_left hzero
  refine sessionOf_meets hbase hnow ht ((finalize_meets hfinal submitter t).mono ?_)
  rintro f ds u ⟨before, during, hds, hopening, hzero, ⟨account⟩⟩
  exact ⟨⟨before, during, hds, hopening, hzero, account⟩⟩

lemma Prelude.entries {before : List Deed} {submitter : Value}
    (h : Prelude now s submitter before) : before.filterMap Deed.asked? = [] := by
  cases h with
  | finalized => rfl
  | saved => rfl
  | noted line => rfl

lemma Prelude.table_ne {before : List Deed} {submitter : Value}
    (h : Prelude now s submitter before) : ∀ d ∈ before, d.call.table ≠ Table.notifications := by
  have hsave : Table.submissions ≠ Table.notifications := by decide
  have hlog : Table.eventLog ≠ Table.notifications := by decide
  cases h with
  | finalized => simp
  | saved =>
    intro d hd
    rw [List.mem_singleton.1 hd]
    exact hsave
  | noted line =>
    intro d hd
    simp only [Deed.logs, List.mem_cons, List.not_mem_nil, or_false] at hd
    rcases hd with rfl | rfl | rfl
    · exact hsave
    · exact hlog
    · exact hsave

/-- The seats that are asked for do not depend on how far the submission has come. -/
lemma Completed.assignments_eq (x : Completed now base logs s submitter o ds u)
    (h : Leads t ds u) (ht : t.Plain) :
    u.rows Table.stageAssignments =
      enter (t.rows Table.stageAssignments) ((roster base s).map (·.row now s)) := by
  rw [x.deeds] at h
  obtain ⟨mid, hbefore, hduring⟩ := h.split
  have hmid : mid.rows Table.stageAssignments = t.rows Table.stageAssignments := by
    rw [hbefore.assignments_eq ht, x.opening.entries]
    rfl
  rw [x.account.assignments_eq hduring ((hbefore.later ht).plain ht), hmid]

lemma Completed.standsAt (x : Completed now base logs s submitter o ds u) (h : Leads t ds u)
    (ht : t.Plain) (hrow : StandsAt (t.rows Table.submissions) s.id s.progress) :
    StandsAt (u.rows Table.submissions) s.id 0 := by
  have hzero : ∀ {v : Database} {es : List Deed}, Leads v es u → v.Plain →
      StandsAt (v.rows Table.submissions) s.id 0 → StandsAt (u.rows Table.submissions) s.id 0 := by
    intro v es hv hplain hstands
    obtain ⟨p, hp, hend⟩ := hstands.leads hv hplain
    obtain rfl : p = 0 := hp.elim id id
    exact hend
  by_cases hprogress : s.progress = 0
  · rw [hprogress] at hrow
    exact hzero h ht hrow
  · obtain ⟨rest, hsaves⟩ : ∃ rest, ds = [.saves (finalizedAt s now)] ++ rest := by
      have hne : x.before ≠ [] := mt x.finalized.1 hprogress
      have hopening := x.opening
      rw [x.deeds]
      generalize x.before = before at hne hopening
      cases hopening with
      | finalized => exact absurd rfl hne
      | saved => exact ⟨_, rfl⟩
      | noted line => exact ⟨_, rfl⟩
    rw [hsaves] at h
    obtain ⟨mid, hsave, hrest⟩ := h.split
    have hpatch := (hsave.isOfIntake _ List.mem_cons_self).2
    refine hzero hrest ((hsave.later ht).plain ht) ?_
    rw [hsave.rows_eq ht]
    exact hrow.finalize hpatch rfl t.orphans

/-- All notifications that are sent and whose users are no orphans are there in the end. -/
lemma Completed.areStored (x : Completed now base logs s submitter o ds u) (h : Leads t ds u)
    (ht : t.Plain) : ∃ kept stored, u.rows Table.notifications = kept ++ stored ∧
      AreStored now base.orphans o stored := by
  have hroutes : ∀ d ∈ ds, Routes d := by
    intro d hd
    rw [x.deeds] at hd
    rcases List.mem_append.1 hd with hd | hd
    · exact fun htable => absurd htable (x.opening.table_ne d hd)
    · exact x.account.routes d hd
  have hbefore : x.before.filterMap (Deed.storedIn? Table.notifications) = [] := by
    rw [List.filterMap_eq_nil_iff]
    exact fun d hd => if_neg (x.opening.table_ne d hd)
  obtain ⟨kept, -, heq⟩ := notices_eq h ht hroutes
    (List.append_nil (t.rows Table.notifications)).symm
    fun row hrow => absurd hrow List.not_mem_nil
  rw [List.nil_append, x.deeds, List.filterMap_append, hbefore, List.nil_append] at heq
  exact ⟨kept, _, heq, x.account.areStored⟩

/-- What finalizing a submission again has to come to: to the assignments and the outcome of the
first time, had it not failed. -/
structure Converged (now : Calendar.Moment) (orphans : List Value) (id : String)
    (whole retry : Watched Finalized) (o o' : Outcome) : Prop where
  assignments : retry.database.rows Table.stageAssignments =
    whole.database.rows Table.stageAssignments
  notified : o'.notifyUserIds = o.notifyUserIds
  notifications : o'.notifications = o.notifications
  escalated : o'.escalated = o.escalated
  /-- The submission is finalized, with a date. -/
  standing : StandsAt (retry.database.rows Table.submissions) id 0
  /-- Whoever is no orphan has the notification. -/
  stored : ∃ kept stored, retry.database.rows Table.notifications = kept ++ stored ∧
    AreStored now orphans o' stored

/-- A session that took up where another had failed has come to what that would have come to. -/
lemma converged_of_completed {whole retry : Watched Finalized} {mid next : Database}
    {es : List Deed} {progress : Int} {submitted active modified : Option Calendar.Moment}
    (hbase : base.Plain) (hmid : Leads base ds mid) (hlast : Leads mid ds' whole.database)
    (x : Completed now base logs s submitter o (ds ++ ds') whole.database)
    (hnext : Later mid next) (hsame : ∀ table, next.rows table = mid.rows table)
    (hstands : StandsAt (mid.rows Table.submissions) s.id progress)
    (hes : Leads next es retry.database)
    (y : Completed now base logs (restamped s progress submitted active modified) submitter o' es
      retry.database) :
    Converged now base.orphans s.id whole retry o o' := by
  have hplain := (hmid.later hbase).plain hbase
  have hready := hnext.plain hplain
  refine ⟨?_, y.account.notifyUserIds.trans x.account.notifyUserIds.symm,
    y.account.notifications.trans x.account.notifications.symm,
    y.account.escalated.trans x.account.escalated.symm, ?_, y.areStored hes hready⟩
  · have hwhole := x.assignments_eq (hmid.trans hlast) hbase
    have hstart := (hmid.later hbase).assignments
    have hend := (hlast.later hplain).assignments
    rw [hwhole] at hend
    rw [y.assignments_eq hes hready, hwhole, hsame]
    exact enter_resume hstart hend
  · rw [← hsame] at hstands
    exact y.standsAt hes hready hstands

/-- Finalizing a submission ends with the fault of a query that fails, whichever it is, and puts no
query after it. To finalize the submission again, as it then stands, comes to the assignments and
the outcome that there would have been without the failure. -/
theorem retry_converges (h : base.WellFormed) (hnow : now.offset = some .utc)
    (logs notes : Bool) (submitter : Option String)
    (hs : s.progress = 0 ∨ s.progress ≤ Submission.finalStep)
    (hrow : StandsAt (base.rows Table.submissions) s.id s.progress)
    {f : CallFault} (hf : f.IsOutage) {k : Nat}
    (hk : k < ((finalizing now logs notes submitter s).watch none base).queries.length) :
    let whole := (finalizing now logs notes submitter s).watch none base
    let cut := (finalizing now logs notes submitter s).watch (some (k, f)) base
    ∃ a c, whole.result = .ok a ∧ whole.queries[k]? = some c ∧
      cut.result = .error (c.surfaced f) ∧ cut.queries = whole.queries.take (k + 1) ∧
      ∃ progress, StandsAt (cut.database.rows Table.submissions) s.id progress ∧
        ∀ submitted active modified,
          let again := restamped s progress submitted active modified
          let retry := (finalizing now logs notes submitter again).watch none cut.database
          ∃ b, retry.result = .ok b ∧
            Converged now base.orphans s.id whole retry a.outcome b.outcome := by
  intro whole cut
  obtain ⟨a, ds, ds', mid, c, hresult, ⟨x⟩, hmid, hlast, hc, hcut⟩ :=
    Session.watch_outage (finalizing_meets h.sound hnow hs (.refl base))
      (surrenders_sessionOf hf _ _) hk
  have hcut' : cut = ⟨.error (c.surfaced f), mid.note c, whole.queries.take (k + 1)⟩ := hcut
  obtain ⟨progress, hprogress, hstands⟩ := hrow.leads hmid h.toPlain
  refine ⟨a, c, hresult, hc, by rw [hcut'], by rw [hcut'], progress, by rwa [hcut'],
    fun submitted active modified => ?_⟩
  dsimp only
  rw [hcut']
  have hagain : (restamped s progress submitted active modified).progress = 0 ∨
      (restamped s progress submitted active modified).progress ≤ Submission.finalStep := by
    change progress = 0 ∨ progress ≤ Submission.finalStep
    rcases hprogress with rfl | rfl
    · exact hs
    · exact .inl rfl
  obtain ⟨b, es, last, hrun, ⟨y⟩, hes⟩ := run_of_meets (finalizing_meets h.sound hnow hagain
    ((hmid.later h.toPlain).trans (later_note mid c)))
  rw [← Session.watch_none] at hrun
  obtain ⟨hretry, rfl⟩ := Prod.mk.inj hrun
  exact ⟨b, hretry, converged_of_completed h.toPlain hmid hlast x (later_note mid c)
    (fun _ => rfl) hstands hes y⟩

lemma finalizing_paper : ∃ next,
    finalizing dawn true true none paper = .ask (.update Table.submissions
      (submissionPatch (finalizedAt paper dawn)) [.equals "id" paper.id]) next ∧
    ∀ rows, ∃ c rest, next (.ok rows) = .ask c rest := by
  have hfinalizable : paper.isFinalizable = true := by decide
  unfold finalizing finalize
  rw [if_pos hfinalizable]
  exact ⟨_, rfl, fun _ => ⟨_, _, rfl⟩⟩

/-- In the small office finalizing a submission fails at its second query, when the row is stored
already, and comes to the same assignments when it is tried again. -/
theorem office_retry : StandsAt (office.rows Table.submissions) paper.id paper.progress ∧
    ∃ cut retry : Watched Finalized, ∃ progress b,
      cut = (finalizing dawn true true none paper).watch (some (1, .broken "")) office ∧
      retry = (finalizing dawn true true none (restamped paper progress none none none)).watch
        none cut.database ∧
      cut.result = .error (.broken "") ∧ retry.result = .ok b ∧
      retry.database.rows Table.stageAssignments =
        ((finalizing dawn true true none paper).watch none office).database.rows
          Table.stageAssignments := by
  have hrow : StandsAt (office.rows Table.submissions) paper.id paper.progress :=
    ⟨_, rfl, rfl, fun h => absurd h (by decide)⟩
  have houtage : (CallFault.broken "").IsOutage := by
    intro e he
    cases he
  have hdawn : dawn.offset = some .utc := rfl
  have hprogress : paper.progress = 0 ∨ paper.progress ≤ Submission.finalStep :=
    .inr (by decide)
  have hk : 1 < ((finalizing dawn true true none paper).watch none office).queries.length := by
    obtain ⟨next, hfirst, hsecond⟩ := finalizing_paper
    rw [hfirst, Session.watch, office_wellFormed.perform_update]
    obtain ⟨c, rest, hnext⟩ := hsecond _
    rw [hnext]
    exact Nat.succ_lt_succ (Nat.succ_pos _)
  obtain ⟨a, c, -, -, hresult, -, progress, -, hagain⟩ := retry_converges office_wellFormed hdawn
    true true none hprogress hrow houtage hk
  obtain ⟨b, hb, hconverged⟩ := hagain none none none
  refine ⟨hrow, _, _, progress, b, rfl, rfl, ?_, hb, hconverged.assignments⟩
  rw [hresult]
  cases c with
  | insert table row => simp [Call.surfaced, Fault.ofLookup, Fault.ofCall]
  | _ => rfl

end EditorialDesk.Intake
