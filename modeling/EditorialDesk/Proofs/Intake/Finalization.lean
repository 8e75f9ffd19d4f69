import EditorialDesk.Proofs.Intake.Opening

/-!
# What a call that finalizes does

One of three things, by how far the submission has come. Past the authoring steps it is left
alone, without a query. Finalized already, it only has the routine run again. In all other
cases it is stored as finalized and the step is logged before the routine runs; on a database
that keeps seats unique the routine leaves the row as it then is, and finalizing again what
was returned changes nothing but notifications.
-/
namespace EditorialDesk

/-- Nothing changes where a field is set to what it is. -/
lemma Fields.set_of_get? {fields : Fields} {name : String} {v : Value}
    (h : fields.get? name = some v) : fields.set name v = fields := by
  induction fields with
  | nil => cases h
  | cons f rest ih =>
    obtain ⟨n, w⟩ := f
    unfold Fields.set
    by_cases hn : n = name
    · have hw : w = v := by simpa [Fields.get?, hn] using h
      rw [if_pos (beq_iff_eq.2 hn), hw]
    · have hrest : Fields.get? rest name = some v := by simpa [Fields.get?, hn] using h
      rw [if_neg (by simpa using hn), ih hrest]

namespace Database

lemma WellFormed.certain {db : Database} (h : db.WellFormed) : db.Certain where
  unreadable := h.unreadable
  unique := h.unique
  scripts s hs := by
    rw [h.scripts] at hs
    cases hs
  groupIds := by
    have hlabels : (db.rows Table.userGroups).map (·.get "id") =
        ((db.rows Table.userGroups).map (·.label "id")).map .text := by
      rw [List.map_map]
      refine List.map_congr_left fun row hrow => ?_
      exact (label_eq_iff (h.groups row hrow).1).1 rfl
    have hids := h.groupIds
    rw [hlabels] at hids
    exact hids.of_map.sublist (List.filter_sublist.map _)

lemma Later.certain {db db' : Database} (h : Later db db') (hdb : db.Certain) : db'.Certain :=
  Spares.certain ⟨h.frame, h.directory⟩ hdb

/-- Deeds that leave the rows of a table as they are, whenever they find them so, leave them. -/
lemma replay_eq_self {orphans : List Value} {table : String} {rows : List Row} {ds : List Deed}
    (h : ∀ d ∈ ds, d.call.table = table → effect orphans rows d.call = rows) :
    replay orphans table rows ds = rows := by
  induction ds with
  | nil => rfl
  | cons d rest ih =>
    have hstep : (if table = d.call.table then effect orphans rows d.call else rows) = rows := by
      split
      · next htable => exact h d List.mem_cons_self htable.symm
      · rfl
    change replay orphans table (if _ then _ else _) rest = rows
    rw [hstep]
    exact ih fun e he => h e (List.mem_cons_of_mem d he)

end Database

namespace Intake

open Database Store

variable {now moment : Calendar.Moment} {base t u : Database} {logs : Bool} {s : Submission}
variable {submitter : Option String} {o : Outcome} {ds : List Deed}

/-- Where the row of the submission is dated already, a run leaves the rows of all submissions as
they are. -/
lemma Account.submissions_eq (a : Account now base logs s o ds u) (h : Leads t ds u)
    (ht : t.Plain) (hdated : ∀ row ∈ t.rows Table.submissions, row.label "id" = s.id →
      row.get? "date_last_activity" = some (.text now.columnText)) :
    u.rows Table.submissions = t.rows Table.submissions := by
  rw [h.rows_eq ht]
  refine replay_eq_self fun d hd htable => ?_
  rw [a.dates_own d hd htable]
  refine (List.map_congr_left fun row hrow => ?_).trans (List.map_id _)
  split
  · next hmeets => exact Fields.set_of_get? (hdated row hrow (by simpa using hmeets))
  · rfl

/-! ## The three cases -/

lemma run_returning (h : (running now logs submitter s).run t = (.ok o, u)) (x : Submission)
    (newly : Bool) : (sessionOf (.shows now) (do
      return (⟨x, ← run logs s (.ofText? submitter), newly⟩ : Finalized))).run t =
        (.ok ⟨x, o, newly⟩, u) := by
  rw [running, run_sessionOf] at h
  rw [run_sessionOf]
  exact Program.run_bind_eq_ok.2 ⟨o, u, h, Program.run_pure_eq_ok.2 ⟨rfl, rfl⟩⟩

/-- A finalized submission only has the routine run. -/
lemma finalize_of_finalized {notes : Bool} (clock : Reading Calendar.Moment)
    (hs : s.progress = 0) (submitter : Value) :
    finalize logs notes clock s submitter =
      (do return ⟨s, ← run logs s submitter, false⟩) := by
  have hfinalized : s.isFinalized = true := by simp [Submission.isFinalized, hs]
  have hfinalizable : ¬ s.isFinalizable = true := by simp [Submission.isFinalizable, hfinalized]
  rw [finalize, if_neg hfinalizable, if_pos hfinalized]

/-- A submission past the authoring steps is left alone. -/
lemma finalize_of_past {notes : Bool} (clock : Reading Calendar.Moment)
    (hs : Submission.finalStep < s.progress) (submitter : Value) :
    finalize logs notes clock s submitter = pure ⟨s, .none, false⟩ := by
  have hzero : s.progress ≠ 0 := by
    unfold Submission.finalStep at hs
    omega
  have hfinalized : ¬ s.isFinalized = true := by simpa [Submission.isFinalized] using hzero
  have hfinalizable : ¬ s.isFinalizable = true := by
    simpa [Submission.isFinalizable, Submission.isFinalized, hzero] using hs
  rw [finalize, if_neg hfinalizable, if_neg hfinalized]

lemma submissions_eq_of_running (hbase : base.Sound) (hnow : now.offset = some .utc)
    (ht : Later base t) {before : Database} (hopened : Opened moment now s submitter before t)
    (h : (running now logs submitter (finalizedAt s moment)).run t = (.ok o, u)) :
    u.rows Table.submissions = t.rows Table.submissions := by
  have hmeets : (run logs (finalizedAt s moment) (.ofText? submitter)).Meets (serving now base) t
      fun o ds u => Nonempty (Account now base logs (finalizedAt s moment) o ds u) := run_meets _ t
  obtain ⟨_, ds, _, hrun, ⟨a⟩, hleads⟩ := run_of_meets (sessionOf_meets hbase hnow ht hmeets)
  obtain ⟨ho, rfl⟩ := Prod.mk.inj (h.symm.trans hrun)
  obtain rfl := Except.ok.inj ho
  refine a.submissions_eq hleads (ht.plain hbase.toPlain) (hopened.row.forall_mem ?_)
  rintro row row'' ⟨row', -, hdate⟩
  rw [hdate]
  rfl

/-- After a run on a submission that was stored as finalized, to finalize it again comes to the same
outcome, enrols nobody and leaves all tables but that of notifications as they are. -/
lemma finalizing_again (ht : t.Certain) (hnow : now.offset = some .utc)
    (hs : s.progress = 0) (h : (running now logs submitter s).run t = (.ok o, u))
    (clock : Reading Calendar.Moment) (ks : List UtcMoment) :
    ∀ r ∈ successive (fun k => (finalizingBy clock k logs submitter s).run) ks u,
      r.1 = .ok ⟨s, { o with created := [] }, false⟩ ∧
        ∀ table ≠ Table.notifications, r.2.rows table = u.rows table := by
  let again : Plan Finalized := do return ⟨s, ← run logs s (.ofText? submitter), false⟩
  have hrepeats : steadyDatabase.Repeats again again t
      fun y y' _ => y' = { y with outcome := { y.outcome with created := [] } } :=
    (run_repeats ht logs s (.ofText? submitter)).bind
      fun o o' v _ ho => Steady.repeats_pure (by rw [ho])
  have hrun : again.run (steadyDatabase.serve ⟨now, hnow⟩) t = (.ok ⟨s, o, false⟩, u) :=
    (run_sessionOf _ _ _).symm.trans (run_returning h s false)
  obtain ⟨y, rfl, hfurther⟩ := hrepeats.further ht hrun
  have hserve : (fun k : UtcMoment => (finalizingBy clock k logs submitter s).run) =
      fun k => again.run (steadyDatabase.serve k) := by
    funext k db
    rw [finalizingBy, finalize_of_finalized clock hs]
    exact run_sessionOf _ _ _
  intro r hr
  rw [hserve] at hr
  obtain ⟨hresult, hstill⟩ := hfurther ks r hr
  exact ⟨hresult, hstill.rows⟩

/-- A call that finalizes does one of three things, whether or not the database keeps seats unique.
Past the authoring steps no query is put. A submission that is finalized has the routine run, and
nothing else is written. In all other cases the call stores the submission with the moment of its
clock, overwriting four columns of its row and no others, and the step is logged; then the routine
runs. The row is then read as what is returned, with the services' last date; an offset with parts
of a minute would be written, but cannot be read. On a database that keeps seats unique the routine
leaves the row so, and to finalize what was returned again, as often as one likes, comes to the same
outcome, enrols nobody and changes nothing but notifications. -/
theorem finalize_exact (h : base.WellFormed) (hnow : now.offset = some .utc) (logs : Bool)
    (submitter : Option String) (s : Submission) (moment : Calendar.Moment) (unique : Bool) :
    let db := base.keeping unique
    let call := finalizingBy (.shows moment) now logs submitter s
    (Submission.finalStep < s.progress → call.run db = (.ok ⟨s, .none, false⟩, db)) ∧
    (s.progress = 0 → ∃ o u, (running now logs submitter s).run db = (.ok o, u) ∧
      call.run db = (.ok ⟨s, o, false⟩, u)) ∧
    (s.progress ≤ Submission.finalStep → s.progress ≠ 0 → ∃ v o u,
      Opened moment now s submitter db v ∧
      (running now logs submitter (finalizedAt s moment)).run v = (.ok o, u) ∧
      call.run db = (.ok ⟨finalizedAt s moment, o, true⟩, u) ∧
      (moment.IsReadable → Rewritten s.id (fun row row' =>
        ∀ x, Submission.read (.object row) = .accepted x → Submission.read (.object row') =
          .accepted { finalizedAt x moment with dateLastActivity := some now })
        (db.rows Table.submissions) (v.rows Table.submissions)) ∧
      (unique = true → u.rows Table.submissions = v.rows Table.submissions ∧
        ∀ clock ks, ∀ r ∈ successive
            (fun k => (finalizingBy clock k logs submitter (finalizedAt s moment)).run) ks u,
          r.1 = .ok ⟨finalizedAt s moment, { o with created := [] }, false⟩ ∧
            ∀ table ≠ Table.notifications, r.2.rows table = u.rows table)) := by
  intro db call
  refine ⟨fun hs => ?_, fun hs => ?_, fun hs hne => ?_⟩
  · simp only [call, finalizingBy, finalize_of_past _ hs]
    rfl
  · obtain ⟨o, u, hrun, -⟩ :=
      run_returns h.sound hnow unique logs s (.ofText? submitter) (.refl base)
    refine ⟨o, _, hrun, ?_⟩
    simp only [call, finalizingBy, finalize_of_finalized _ hs]
    exact run_returning hrun s false
  · have hfinalizable : s.isFinalizable = true := by
      simpa [Submission.isFinalizable, Submission.isFinalized, hne] using hs
    obtain ⟨v, hv, hopened, hcall⟩ := run_finalize_of_finalizable h.toPlain moment now logs
      hfinalizable submitter unique
    obtain ⟨o, u, hrun, -⟩ := run_returns h.sound hnow unique logs (finalizedAt s moment)
      (.ofText? submitter) hv
    refine ⟨v.keeping unique, o, u.keeping unique, ?_, hrun,
      hcall.trans (run_returning hrun _ true), ?_, ?_⟩
    · exact ⟨hopened.row, hopened.entry, hopened.elsewhere, hopened.queries⟩
    · rintro hmoment
      refine hopened.row.mono ?_
      rintro row row'' ⟨row', hstamp, hdate⟩ x hx
      exact Submission.read_stamped hmoment (now.isReadable_of_utc hnow) hstamp hdate hx
    · rintro rfl
      have hplain := hv.plain h.toPlain
      rw [hplain.keeping_true] at hrun ⊢
      exact ⟨submissions_eq_of_running h.sound hnow hv hopened hrun,
        fun clock ks => finalizing_again (hv.certain h.certain) hnow rfl hrun clock ks⟩

/-- The paper for the small office is stored and logged as submitted before the routine runs, which
leaves its row alone; to finalize it again at dawn enrols nobody. -/
theorem office_paper_submitted : office.WellFormed ∧ dawn.offset = some .utc ∧ ∃ v o u,
    Opened daybreak dawn paper (some "u-1") office v ∧
    (running dawn true (some "u-1") (finalizedAt paper daybreak)).run v = (.ok o, u) ∧
    (finalizingBy (.shows daybreak) dawn true (some "u-1") paper).run office =
      (.ok ⟨finalizedAt paper daybreak, o, true⟩, u) ∧
    u.rows Table.submissions = v.rows Table.submissions ∧
    ∀ r ∈ successive (fun k => (finalizingBy (.shows dawn) k true (some "u-1")
        (finalizedAt paper daybreak)).run) [⟨dawn, rfl⟩] u,
      r.1 = .ok ⟨finalizedAt paper daybreak, { o with created := [] }, false⟩ := by
  have hdawn : dawn.offset = some .utc := rfl
  obtain ⟨-, -, hsubmitted⟩ :=
    finalize_exact office_wellFormed hdawn true (some "u-1") paper daybreak true
  obtain ⟨v, o, u, hopened, hrun, hcall, -, hunique⟩ := hsubmitted (by decide) (by decide)
  obtain ⟨hrow, hagain⟩ := hunique rfl
  exact ⟨office_wellFormed, hdawn, v, o, u, hopened, hrun, hcall, hrow,
    fun r hr => (hagain _ _ r hr).1⟩

end Intake
end EditorialDesk
