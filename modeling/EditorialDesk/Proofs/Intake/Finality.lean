import EditorialDesk.Proofs.Intake.Retry

/-!
# A submission that is finalized again and again

Whether a call finalizes a submission is decided by what its caller knows of it, and the
row is written whatever it holds. A call whose submission is within the authoring steps
stores the date of that moment and logs the step, even if the row is finalized already; no
other call touches the date or adds such an entry. If every caller knows how far the
submission has come by then, it is finalized at most once.
-/
namespace EditorialDesk.Intake

open Database Store

/-- A call that finalizes a submission: what the clock shows, what the caller knows of the
submission, and who submits. -/
structure Sending where
  now : Calendar.Moment
  known : Submission
  submitter : Option String

namespace Sending

/-- The session of a call. The step is logged, and enrolments if `logs` is set. -/
def session (logs : Bool) (x : Sending) : Session Finalized :=
  finalizing x.now logs true x.submitter x.known

/-- The calls that finalize the submission, going by what their callers know. -/
def decisive (calls : List Sending) : List Sending := calls.filter (·.known.isFinalizable)

/-- What calls leave, one after the other. -/
def proceed (logs : Bool) (db : Database) (calls : List Sending) : Database :=
  calls.foldl (fun db x => ((x.session logs).run db).2) db

end Sending

/-- Progress and date of submission in the rows of a submission. -/
def standings (id : String) (rows : List Row) : List (Value × Value) :=
  (rows.filter (meets [.equals "id" id])).map fun row =>
    (row.get "submission_progress", row.get "date_submitted")

/-- An entry of the log says that a submission was submitted. -/
def saysSubmitted (id : String) (row : Row) : Bool :=
  row.get "event_type" == .text EventType.submissionSubmitted.word &&
    row.label "submission_id" == id

/-- The moments at which a submission was submitted, by the log. -/
def submittedAt (id : String) (rows : List Row) : List Value :=
  (rows.filter (saysSubmitted id)).map (·.get "date_logged")

variable {now : Calendar.Moment} {base t u : Database} {logs : Bool} {s : Submission}
variable {o : Outcome} {ds : List Deed} {rows : List Row} {id : String}

lemma submittedAt_append (id : String) (rows rows' : List Row) :
    submittedAt id (rows ++ rows') = submittedAt id rows ++ submittedAt id rows' := by
  unfold submittedAt
  rw [List.filter_append, List.map_append]

/-- The date of a submission's last activity has no part in its standing. -/
lemma standings_dated (now : Calendar.Moment) (filters : List Filter) (orphans : List Value) :
    standings id (effect orphans rows (.update Table.submissions (dated now) filters)) =
      standings id rows := by
  have hpatch := isAdvance_dated now
  unfold standings
  rw [filter_effect_update hpatch, List.map_map]
  refine List.map_congr_left fun row _ => ?_
  have hget : ∀ {column : String}, (dated now).get? column = none →
      (if meets filters row then row.merge (dated now) else row).get column = row.get column := by
    intro column hcolumn
    split
    · rw [Fields.get, Fields.get?_merge row hpatch.1, hcolumn]
      rfl
    · rfl
  exact Prod.ext (hget rfl) (hget rfl)

lemma standings_saved (s : Submission) (now : Calendar.Moment) (orphans : List Value) :
    standings s.id (effect orphans rows (Deed.saves (finalizedAt s now)).call) =
      (standings s.id rows).map fun _ => (.int 0, .text now.columnText) := by
  have hpatch : (submissionPatch (finalizedAt s now)).IsAdvance :=
    isAdvance_submissionPatch rfl rfl
  unfold standings Deed.saves
  rw [filter_effect_update hpatch, List.map_map, List.map_map]
  refine List.map_congr_left fun row hrow => ?_
  have hmeets : meets [.equals "id" (finalizedAt s now).id] row = true :=
    (List.mem_filter.1 hrow).2
  have hget : ∀ {column : String} {v : Value},
      (submissionPatch (finalizedAt s now)).get? column = some v →
      (row.merge (submissionPatch (finalizedAt s now))).get column = v := by
    intro column v hcolumn
    rw [Fields.get, Fields.get?_merge row hpatch.1, hcolumn]
    rfl
  simp only [Function.comp_apply, if_pos hmeets]
  exact Prod.ext (hget rfl) (hget rfl)

/-- What a run does to the rows of submissions: it dates that of its own. -/
lemma Account.dates_own (a : Account now base logs s o ds u) : ∀ d ∈ ds,
    d.call.table = Table.submissions →
      d.call = .update Table.submissions (dated now) [.equals "id" s.id] := by
  have hnotices : Table.notifications ≠ Table.submissions := by decide
  refine a.forall_deeds (fun x d hd htable => ?_) (fun _ _ htable => absurd htable hnotices)
    (fun htable => absurd htable hnotices) fun htable => absurd htable hnotices
  unfold Trial.deeds at hd
  rcases List.mem_cons.1 hd with rfl | hd
  · exact absurd htable (show Table.stageAssignments ≠ Table.submissions by decide)
  · split at hd
    · simp only [Deed.logs, List.mem_cons, List.not_mem_nil, or_false] at hd
      rcases hd with rfl | rfl
      · exact absurd htable (show Table.eventLog ≠ Table.submissions by decide)
      · rfl
    · cases hd

/-- A run leaves every submission standing where it stood. -/
lemma Account.standings_eq (a : Account now base logs s o ds u) (h : Leads t ds u)
    (ht : t.Plain) (id : String) :
    standings id (u.rows Table.submissions) = standings id (t.rows Table.submissions) := by
  rw [h.rows_eq ht]
  have hdates := a.dates_own
  generalize t.rows Table.submissions = rows
  clear a h
  induction ds generalizing rows with
  | nil => rfl
  | cons d rest ih =>
    change standings id (replay t.orphans Table.submissions
      (if Table.submissions = d.call.table then effect t.orphans rows d.call else rows) rest) = _
    rw [ih fun e he => hdates e (List.mem_cons_of_mem d he)]
    split
    · next htable =>
      rw [hdates d List.mem_cons_self htable.symm, standings_dated]
    · rfl

/-- No entry of a run says that a submission was submitted. -/
lemma Account.submittedAt_eq (a : Account now base logs s o ds u) (id : String) :
    submittedAt id (ds.filterMap (Deed.storedIn? Table.eventLog)) = [] := by
  unfold submittedAt
  rw [List.map_eq_nil_iff, List.filter_eq_nil_iff, a.storedIn_log]
  intro row hrow
  obtain ⟨x, -, hlogged⟩ := List.mem_filterMap.1 hrow
  unfold Trial.logged? at hlogged
  split at hlogged
  · obtain rfl := Option.some.inj hlogged
    have htype : Fields.get (identified Table.eventLog x.line (eventRow now (x.event s)))
        "event_type" = .text EventType.participantAssigned.word := rfl
    simp [saysSubmitted, htype, EventType.word]
  · cases hlogged

/-- What one call does to the standing of the submission and to the log. -/
structure Filed (x : Sending) (t u : Database) : Prop where
  standings : standings x.known.id (u.rows Table.submissions) =
    if x.known.isFinalizable then
      (standings x.known.id (t.rows Table.submissions)).map fun _ =>
        (.int 0, .text x.now.columnText)
    else standings x.known.id (t.rows Table.submissions)
  submitted : submittedAt x.known.id (u.rows Table.eventLog) =
    submittedAt x.known.id (t.rows Table.eventLog) ++
      if x.known.isFinalizable then [.text x.now.columnText] else []

/-- A submission that is within the authoring steps is stored, the step is logged, and then the
routine runs. -/
lemma finalize_meets_noted (logs : Bool) (hs : s.isFinalizable = true)
    (submitter : Option String) (t : Database) :
    (finalize logs true (.shows now) s (.ofText? submitter)).Meets (serving now base) t
      fun f ds u => f.newlySubmitted = true ∧ ∃ line during,
        ds = .saves (finalizedAt s now) ::
          (Deed.logs now (submittedEvent s (.ofText? submitter)) line ++ during) ∧
        Nonempty (Account now base logs s f.outcome during u) := by
  unfold finalize
  rw [if_pos hs, Program.meets_bind]
  simp only [Reading.look, Program.meets_ofExcept_ok, List.nil_append]
  refine (Program.meets_request_bind _ _ _ _).2 ⟨⟨rfl, now, rfl⟩, ?_⟩
  rintro - es u ⟨-, rfl⟩
  simp only [if_true]
  refine (Program.meets_request_bind _ _ _ _).2 ⟨submittedEvent_accepted submitter, ?_⟩
  rintro entry fs v ⟨-, line, rfl⟩
  rw [Program.meets_bind]
  refine (run_meets (.ofText? submitter) v).mono ?_
  rintro o gs w ⟨account⟩
  refine ⟨rfl, line, gs, ?_, ⟨account.ofRestamped⟩⟩
  simp [submittedEvent, finalizedAt]

/-- A submission that is not within the authoring steps is left alone, and the routine runs if it is
finalized. -/
lemma finalize_meets_of_not_finalizable (logs : Bool) (hs : ¬ s.isFinalizable = true)
    (submitter : Option String) (t : Database) :
    (finalize logs true (.shows now) s (.ofText? submitter)).Meets (serving now base) t
      fun f ds u => f.newlySubmitted = false ∧
        (ds = [] ∨ Nonempty (Account now base logs s f.outcome ds u)) := by
  unfold finalize
  rw [if_neg hs]
  split
  · rw [Program.meets_bind]
    refine (run_meets (.ofText? submitter) t).mono ?_
    rintro o gs w haccount
    exact ⟨rfl, .inr (by simpa using haccount)⟩
  · exact ⟨rfl, .inl rfl⟩

/-- Every call returns. One that goes by a submission within the authoring steps stores the date of
its own moment and adds an entry to the log; any other leaves both as they are. -/
theorem Sending.filed (logs : Bool) (x : Sending) (hnow : x.now.offset = some .utc)
    (ht : t.Sound) : ∃ f u, (x.session logs).run t = (.ok f, u) ∧
      f.newlySubmitted = x.known.isFinalizable ∧ Filed x t u ∧ Later t u := by
  have hlog : ∀ {ds : List Deed} {u : Database}, Leads t ds u →
      u.rows Table.eventLog =
        t.rows Table.eventLog ++ ds.filterMap (Deed.storedIn? Table.eventLog) :=
    fun h => h.rows_append ht.toPlain (by decide) (by decide)
  by_cases hs : x.known.isFinalizable = true
  · obtain ⟨f, ds, u, hrun, ⟨hnew, line, during, rfl, ⟨a⟩⟩, hleads⟩ :=
      run_of_meets (sessionOf_meets ht hnow (.refl t)
        (finalize_meets_noted logs hs x.submitter t))
    refine ⟨f, u, hrun, hnew.trans hs.symm, ⟨?_, ?_⟩, hleads.later ht.toPlain⟩
    · have hparts : Leads t ((.saves (finalizedAt x.known x.now) ::
          Deed.logs x.now (submittedEvent x.known (.ofText? x.submitter)) line) ++ during) u :=
        hleads
      obtain ⟨v, hopening, hduring⟩ := hparts.split
      have hrows : v.rows Table.submissions = effect t.orphans
          (effect t.orphans (t.rows Table.submissions)
            (Deed.saves (finalizedAt x.known x.now)).call)
          (.update Table.submissions (dated x.now) [.equals "id" x.known.id]) :=
        hopening.rows_eq ht.toPlain Table.submissions
      rw [if_pos hs, a.standings_eq hduring ((hopening.later ht.toPlain).plain ht.toPlain), hrows,
        standings_dated, standings_saved]
    · rw [if_pos hs, hlog hleads, submittedAt_append]
      congr 1
      have hsplit : (.saves (finalizedAt x.known x.now) ::
          (Deed.logs x.now (submittedEvent x.known (.ofText? x.submitter)) line ++
            during)).filterMap (Deed.storedIn? Table.eventLog) =
          [identified Table.eventLog line
            (eventRow x.now (submittedEvent x.known (.ofText? x.submitter)))] ++
            during.filterMap (Deed.storedIn? Table.eventLog) := rfl
      have hsays : saysSubmitted x.known.id (identified Table.eventLog line
          (eventRow x.now (submittedEvent x.known (.ofText? x.submitter)))) = true := by
        have hid : Fields.label (identified Table.eventLog line
            (eventRow x.now (submittedEvent x.known (.ofText? x.submitter)))) "submission_id" =
              x.known.id := rfl
        have htype : Fields.get (identified Table.eventLog line
            (eventRow x.now (submittedEvent x.known (.ofText? x.submitter)))) "event_type" =
              .text EventType.submissionSubmitted.word := rfl
        simp [saysSubmitted, hid, htype]
      rw [hsplit, submittedAt_append, a.submittedAt_eq, List.append_nil, submittedAt,
        List.filter_singleton, hsays]
      rfl
  · obtain ⟨f, ds, u, hrun, ⟨hnew, hds⟩, hleads⟩ :=
      run_of_meets (sessionOf_meets ht hnow (.refl t)
        (finalize_meets_of_not_finalizable logs hs x.submitter t))
    refine ⟨f, u, hrun, hnew.trans (by simpa using hs), ⟨?_, ?_⟩, hleads.later ht.toPlain⟩
    · rw [if_neg hs]
      rcases hds with rfl | ⟨⟨a⟩⟩
      · rw [hleads.rows_eq ht.toPlain]
        rfl
      · exact a.standings_eq hleads ht.toPlain _
    · rw [if_neg hs, hlog hleads, submittedAt_append]
      congr 1
      rcases hds with rfl | ⟨⟨a⟩⟩
      · rfl
      · exact a.submittedAt_eq _

open Sending

/-- The standing that calls leave: that of the last one that finalizes the submission. -/
def stamped (calls : List Sending) (standing : Value × Value) : Value × Value :=
  match (decisive calls).getLast? with
  | some x => (.int 0, .text x.now.columnText)
  | none => standing

lemma decisive_concat (calls : List Sending) (x : Sending) :
    decisive (calls ++ [x]) =
      decisive calls ++ if x.known.isFinalizable then [x] else [] := by
  unfold decisive
  rw [List.filter_append, List.filter_singleton]
  cases x.known.isFinalizable <;> rfl

lemma stamped_concat (calls : List Sending) (x : Sending) (standing : Value × Value) :
    stamped (calls ++ [x]) standing =
      if x.known.isFinalizable then (.int 0, .text x.now.columnText)
      else stamped calls standing := by
  unfold stamped
  rw [decisive_concat]
  by_cases hs : x.known.isFinalizable = true
  · rw [if_pos hs, if_pos hs, List.getLast?_append]
    rfl
  · rw [if_neg hs, if_neg hs, List.append_nil]

lemma proceed_concat (logs : Bool) (db : Database) (calls : List Sending) (x : Sending) :
    proceed logs db (calls ++ [x]) = ((x.session logs).run (proceed logs db calls)).2 :=
  List.foldl_append

variable {calls : List Sending}

/-- Calls for one submission, one after the other: the last one that finalizes it tells its
standing, and each of those has its entry in the log. -/
theorem proceed_filed (logs : Bool) (hbase : base.Sound)
    (hcalls : ∀ x ∈ calls, x.known.id = id ∧ x.now.offset = some .utc) :
    Later base (proceed logs base calls) ∧
    standings id ((proceed logs base calls).rows Table.submissions) =
      (standings id (base.rows Table.submissions)).map (stamped calls) ∧
    submittedAt id ((proceed logs base calls).rows Table.eventLog) =
      submittedAt id (base.rows Table.eventLog) ++
        (decisive calls).map fun x => .text x.now.columnText := by
  induction calls using List.reverseRecOn with
  | nil =>
    refine ⟨.refl base, ?_, (List.append_nil _).symm⟩
    exact (List.map_id _).symm
  | append_singleton calls x ih =>
    obtain ⟨hlater, hstandings, hsubmitted⟩ := ih fun y hy => hcalls y (List.mem_append_left _ hy)
    obtain ⟨rfl, hnow⟩ := hcalls x (by simp)
    obtain ⟨f, u, hrun, -, hfiled, hu⟩ := x.filed logs hnow (hlater.sound hbase)
    rw [proceed_concat, hrun, decisive_concat]
    refine ⟨hlater.trans hu, ?_, ?_⟩
    · rw [hfiled.standings, hstandings]
      split
      · next hs =>
        rw [List.map_map]
        exact List.map_congr_left fun _ _ => ((stamped_concat calls x _).trans (if_pos hs)).symm
      · next hs =>
        exact List.map_congr_left fun _ _ => ((stamped_concat calls x _).trans (if_neg hs)).symm
    · rw [hfiled.submitted, hsubmitted, List.append_assoc]
      split <;> simp

/-- A call that finalizes the submission leaves it finalized, so that nobody who knows how far it
has come finalizes it again. -/
lemma length_decisive_le (logs : Bool) (hbase : base.Sound)
    (hcalls : ∀ x ∈ calls, x.known.id = id ∧ x.now.offset = some .utc)
    (hrow : standings id (base.rows Table.submissions) ≠ [])
    (hcurrent : ∀ before x after, calls = before ++ x :: after →
      ∀ standing ∈ standings id ((proceed logs base before).rows Table.submissions),
        standing.1 = .int x.known.progress) :
    (decisive calls).length ≤ 1 := by
  induction calls using List.reverseRecOn with
  | nil => exact Nat.zero_le 1
  | append_singleton calls x ih =>
    have hbefore := fun y (hy : y ∈ calls) => hcalls y (List.mem_append_left _ hy)
    have hone := ih hbefore fun before y after heq =>
      hcurrent before y (after ++ [x]) (by rw [heq]; simp)
    rw [decisive_concat]
    split
    · next hs =>
      obtain ⟨standing, hstanding⟩ := List.exists_mem_of_ne_nil _ hrow
      obtain ⟨-, hstandings, -⟩ := proceed_filed logs hbase hbefore
      have hprogress := hcurrent calls x [] rfl (stamped calls standing)
        (hstandings ▸ List.mem_map_of_mem hstanding)
      have hne : x.known.progress ≠ 0 := by
        intro hzero
        simp [Submission.isFinalizable, Submission.isFinalized, hzero] at hs
      have hnone : decisive calls = [] := by
        unfold stamped at hprogress
        split at hprogress
        · exact absurd (Value.int.inj hprogress).symm hne
        · next hlast => exact List.getLast?_eq_none_iff.1 hlast
      rw [hnone]
      exact le_rfl
    · rw [List.append_nil]
      exact hone

/-- Calls that finalize one submission, at any moments and whatever their callers know of it. All of
them return. The stored date is that of the last call that went by a submission within the authoring
steps, and the log has an entry for each such call; where every caller knows how far the submission
has come by then, there is at most one. -/
theorem finalizations_exact (h : base.WellFormed) (logs : Bool) {standing : Value × Value}
    (hrow : standings id (base.rows Table.submissions) = [standing])
    (hcalls : ∀ x ∈ calls, x.known.id = id ∧ x.now.offset = some .utc) :
    (∀ before x after, calls = before ++ x :: after →
      ∃ f, ((x.session logs).run (proceed logs base before)).1 = .ok f ∧
        f.newlySubmitted = x.known.isFinalizable) ∧
    standings id ((proceed logs base calls).rows Table.submissions) = [stamped calls standing] ∧
    submittedAt id ((proceed logs base calls).rows Table.eventLog) =
      submittedAt id (base.rows Table.eventLog) ++
        (decisive calls).map (fun x => .text x.now.columnText) ∧
    ((∀ before x after, calls = before ++ x :: after →
      ∀ current ∈ standings id ((proceed logs base before).rows Table.submissions),
        current.1 = .int x.known.progress) → (decisive calls).length ≤ 1) := by
  obtain ⟨-, hstandings, hsubmitted⟩ := proceed_filed logs h.sound hcalls
  refine ⟨fun before x after heq => ?_, ?_, hsubmitted, ?_⟩
  · have hbefore : ∀ y ∈ before, y.known.id = id ∧ y.now.offset = some .utc :=
      fun y hy => hcalls y (heq ▸ List.mem_append_left _ hy)
    have hx := hcalls x (by simp [heq])
    obtain ⟨hlater, -, -⟩ := proceed_filed logs h.sound hbefore
    obtain ⟨f, u, hrun, hnew, -, -⟩ := x.filed logs hx.2 (hlater.sound h.sound)
    exact ⟨f, by rw [hrun], hnew⟩
  · rw [hstandings, hrow, List.map_singleton]
  · exact length_decisive_le logs h.sound hcalls (by simp [hrow])

/-- The moment after the first of the calendar, in UTC. -/
def daybreak : Calendar.Moment := ⟨⟨1, by decide⟩, some .utc⟩

/-- Two calls for the submission to the small office, by callers who both know it as it was at
first. -/
def twice : List Sending := [⟨dawn, paper, none⟩, ⟨daybreak, paper, none⟩]

lemma standings_office : standings "sub-1" (office.rows Table.submissions) = [(.int 4, .null)] :=
  rfl

lemma twice_calls : ∀ x ∈ twice, x.known.id = "sub-1" ∧ x.now.offset = some .utc := by
  intro x hx
  rcases List.mem_pair.1 hx with rfl | rfl <;> exact ⟨rfl, rfl⟩

/-- In the small office both calls return, and both have their entry in the log. -/
theorem office_finalizations : office.WellFormed ∧
    (∀ before x after, twice = before ++ x :: after →
      ∃ f, ((x.session true).run (proceed true office before)).1 = .ok f ∧
        f.newlySubmitted = x.known.isFinalizable) ∧
    (submittedAt "sub-1" ((proceed true office twice).rows Table.eventLog)).length = 2 := by
  obtain ⟨hreturns, -, hsubmitted, -⟩ :=
    finalizations_exact office_wellFormed true standings_office twice_calls
  exact ⟨office_wellFormed, hreturns, by rw [hsubmitted]; rfl⟩

/-- The second caller knows the submission as it was when both began. The date that the first call
has stored is overwritten, and the submission is submitted twice by the log. -/
theorem office_finalized_twice : office.WellFormed ∧
    standings "sub-1" (office.rows Table.submissions) = [(.int paper.progress, .null)] ∧
    dawn.ticks ≤ daybreak.ticks ∧
    ∃ date date', date ≠ date' ∧
      standings "sub-1" ((proceed true office (twice.take 1)).rows Table.submissions) =
        [(.int 0, date)] ∧
      standings "sub-1" ((proceed true office twice).rows Table.submissions) = [(.int 0, date')] ∧
      submittedAt "sub-1" (office.rows Table.eventLog) = [] ∧
      submittedAt "sub-1" ((proceed true office twice).rows Table.eventLog) = [date, date'] := by
  have hne : Value.text dawn.columnText ≠ .text daybreak.columnText := by
    intro heq
    have hread := Calendar.readMoment_columnText (m := dawn) rfl
    rw [Value.text.inj heq, Calendar.readMoment_columnText (m := daybreak) rfl] at hread
    cases hread
  obtain ⟨-, hfirst, -⟩ := proceed_filed true office_wellFormed.sound
    fun x hx => twice_calls x (List.mem_of_mem_take hx)
  obtain ⟨-, hsecond, hsubmitted⟩ := proceed_filed true office_wellFormed.sound
    twice_calls
  rw [standings_office] at hfirst hsecond
  exact ⟨office_wellFormed, standings_office, by decide, _, _, hne, hfirst, hsecond, rfl,
    hsubmitted⟩

end EditorialDesk.Intake
