import EditorialDesk.Proofs.Store.Grown

/-!
# The database is steady

No request writes the tables of the directory, and an assignment is only added behind the
others. A seat that was asked for stays taken. A user's assignments can be read again, and
those that were found before stand in the order in which they were found.
-/
namespace EditorialDesk.Store

open Database Session

variable {db db' u : Database} {now now' : Calendar.Moment}

/-! ## Seats -/

/-- An enrolment is turned away: its seat is taken, or every insert fails as if it were. -/
def IsRefused (db : Database) (e : Enrollment) : Prop :=
  (∃ error : DatabaseError, db.failure? Table.stageAssignments .insert = some (.rejected error) ∧
    error.isUniqueViolation = true) ∨
  db.failure? Table.stageAssignments .insert = none ∧
    seatOf e ∈ seats (db.rows Table.stageAssignments)

lemma run_enroll_of_isRefused (hdb : db.Firm) {e : Enrollment} (he : IsRefused db e) :
    (enroll now e).run db =
      (.ok none, db.note (.insert Table.stageAssignments (assignmentRow now e))) := by
  unfold enroll
  dsimp only
  rw [run_attempt]
  rcases he with ⟨error, hf, hunique⟩ | ⟨hf, hseat⟩
  · rw [hdb.perform_insert_of_failure hf]
    simp only [hunique, if_true]
    rfl
  · rw [hdb.perform_insert hf,
      violation?_assignment hdb.unique (hdb.unreadable?_eq _), if_pos hseat]
    simp only [isUniqueViolation_seatTaken, if_true]
    rfl

/-- Where a seat is free, an enrolment that has a result has added its row. -/
lemma run_enroll_of_free (hdb : db.Firm) {e : Enrollment} {r : Option StageAssignment}
    (hf : db.failure? Table.stageAssignments .insert = none)
    (hfree : seatOf e ∉ seats (db.rows Table.stageAssignments))
    (h : (enroll now e).run db = (.ok r, db')) :
    r ≠ none ∧ db' = db.inserted Table.stageAssignments (assignmentRow now e) := by
  have hread : ∀ {answer : Value}, Session.run (Program.ofExcept do
      return some (← assignmentOf ((← firstRow answer).getD (assignmentRow now e))))
        (db.inserted Table.stageAssignments (assignmentRow now e)) = (.ok r, db') →
      r ≠ none ∧ db' = db.inserted Table.stageAssignments (assignmentRow now e) := by
    intro answer hrun
    obtain ⟨hr, rfl⟩ := run_ofExcept_eq_ok.1 hrun
    refine ⟨?_, rfl⟩
    rintro rfl
    cases hrow : firstRow answer with
    | error fault => simp [hrow, bind, Except.bind] at hr
    | ok row =>
      cases ha : assignmentOf (row.getD (assignmentRow now e)) <;>
        simp [hrow, ha, bind, Except.bind, pure, Except.pure] at hr
  unfold enroll at h
  dsimp only at h
  rw [run_attempt, hdb.perform_insert hf,
    violation?_assignment hdb.unique (hdb.unreadable?_eq _), if_neg hfree] at h
  dsimp only at h
  rcases db.reply_cases Table.stageAssignments with hreply | ⟨v, hreply⟩ | hreply
  · rw [hreply] at h
    cases h
  · rw [hreply] at h
    exact hread h
  · rw [hreply] at h
    exact hread h

lemma enroll_run_cases (hdb : db.Firm) {e : Enrollment} {r : Option StageAssignment}
    (h : (enroll now e).run db = (.ok r, db')) :
    r = none ∧ IsRefused db e ∧
        db' = db.note (.insert Table.stageAssignments (assignmentRow now e)) ∨
      r ≠ none ∧ db.failure? Table.stageAssignments .insert = none ∧
        seatOf e ∉ seats (db.rows Table.stageAssignments) ∧
        db' = db.inserted Table.stageAssignments (assignmentRow now e) := by
  have hrefused : IsRefused db e → r = none ∧ IsRefused db e ∧
      db' = db.note (.insert Table.stageAssignments (assignmentRow now e)) := by
    intro he
    rw [run_enroll_of_isRefused hdb he] at h
    obtain ⟨hr, rfl⟩ := Prod.mk.inj h
    exact ⟨(Except.ok.inj hr).symm, he, rfl⟩
  cases hf : db.failure? Table.stageAssignments .insert with
  | none =>
    by_cases hseat : seatOf e ∈ seats (db.rows Table.stageAssignments)
    · exact .inl (hrefused (.inr ⟨hf, hseat⟩))
    · obtain ⟨hr, hdb'⟩ := run_enroll_of_free hdb hf hseat h
      exact .inr ⟨hr, rfl, hseat, hdb'⟩
  | some f =>
    refine .inl (hrefused ?_)
    unfold enroll at h
    dsimp only at h
    rw [run_attempt, hdb.perform_insert_of_failure hf] at h
    cases f with
    | rejected error =>
      cases hunique : error.isUniqueViolation with
      | false =>
        simp only [hunique, Bool.false_eq_true, if_false] at h
        cases h
      | true => exact .inl ⟨error, hf, hunique⟩
    | _ => cases h

lemma IsRefused.later {e : Enrollment} (he : IsRefused db e) (h : Grown db u) : IsRefused u e := by
  unfold IsRefused
  rw [h.failure?_eq]
  exact he.imp_right fun ⟨hf, hseat⟩ => ⟨hf, h.seats_subset hseat⟩

/-- Whatever an enrolment came to, the next one for its seat is turned away. -/
lemma isRefused_of_run (hdb : db.Firm) {e : Enrollment} {r : Option StageAssignment}
    (h : (enroll now e).run db = (.ok r, db')) : IsRefused db' e := by
  rcases enroll_run_cases hdb h with ⟨-, he, rfl⟩ | ⟨-, hf, -, rfl⟩
  · exact he
  · refine .inr ⟨hf, ?_⟩
    have hseat : seatLabels (identified Table.stageAssignments
        (db.rows Table.stageAssignments).length (assignmentRow now e)) = seatOf e :=
      seatLabels_identified _ _ _
    rw [inserted, rows_setRows, if_pos rfl, seats_append]
    exact List.mem_append_right _ (List.mem_singleton.2 hseat.symm)

/-- An enrolment through a group of editors, or in vain, keeps what was told. -/
lemma grown_of_enroll (hdb : db.Firm) (hnow : now.offset = some .utc) {e : Enrollment}
    {r : Option StageAssignment} (h : (enroll now e).run db = (.ok r, db'))
    (hgroup : r = none ∨ ∃ g, Knows g db ∧ e.groupId = .text g.id ∧ g.role ≠ .author) :
    Grown db db' := by
  rcases enroll_run_cases hdb h with ⟨-, -, rfl⟩ | ⟨hr, -, -, rfl⟩
  · exact (spares_note _ db _).grown
  · have hspares : Spares (· ∈ Table.directory) db
        (db.inserted Table.stageAssignments (assignmentRow now e)) := by
      refine ⟨rfl, fun table ht => ?_⟩
      have hne : table ≠ Table.stageAssignments := by
        rintro rfl
        exact absurd ht (by decide)
      rw [inserted, rows_setRows, if_neg hne, rows_note]
    refine ⟨hspares, _, by rw [inserted, rows_setRows, if_pos rfl], fun row hrow => ?_⟩
    rw [List.mem_singleton.1 hrow]
    obtain ⟨g, hg, hid, hrole⟩ := hgroup.resolve_left hr
    refine ⟨_, assignmentOf_identified hnow e _, g, hg, ?_, hrole⟩
    rw [assignmentAt, hid, Value.label_text]

/-! ## Notifications and the log -/

/-- What an insert of a notification answers. -/
def noticeAnswer (db : Database) (row : Row) : Except CallFault Value :=
  (db.perform (.insert Table.notifications row)).1

/-- An insert of a notification fares as one did before for the same user. -/
lemma noticeAnswer_again (hdb : db.Firm) {kept : String → Prop} (hu : Spares kept db u)
    {row row' : Row} (hrow : row'.get "user_id" = row.get "user_id") :
    noticeAnswer u row' = noticeAnswer db row ∨
      ∃ stored stored', noticeAnswer db row = .ok (.list [.object stored]) ∧
        noticeAnswer u row' = .ok (.list [.object stored']) := by
  unfold noticeAnswer
  have hviolation :
      u.violation? Table.notifications row' = db.violation? Table.notifications row := by
    have hne : (Table.notifications == Table.stageAssignments) = false := by decide
    have horphans : u.orphans = db.orphans := by rw [← hu.frame]
    simp only [violation?, hne, Bool.and_false, Bool.false_eq_true, if_false, beq_self_eq_true,
      if_true, hrow, horphans]
  have hreply : u.reply Table.notifications = db.reply Table.notifications := by
    rw [← hu.frame]
    rfl
  cases hf : db.failure? Table.notifications .insert with
  | some f =>
    rw [hdb.perform_insert_of_failure hf,
      (hu.firm hdb).perform_insert_of_failure (hu.failure?_eq ▸ hf)]
    exact .inl rfl
  | none =>
    rw [hdb.perform_insert hf, (hu.firm hdb).perform_insert (hu.failure?_eq ▸ hf), hviolation,
      hreply]
    cases db.violation? Table.notifications row with
    | error f => exact .inl rfl
    | ok violation =>
      cases violation with
      | some e => exact .inl rfl
      | none =>
        rcases db.reply_cases Table.notifications with hanswer | ⟨v, hanswer⟩ | hanswer
        · exact .inl ((hanswer _).trans (hanswer _).symm)
        · exact .inl ((hanswer _).trans (hanswer _).symm)
        · exact .inr ⟨_, _, hanswer _, hanswer _⟩

/-- A notification that was taken is taken again. -/
lemma notify_again (hdb : db.Firm) {kept : String → Prop} (hu : Spares kept db u) {n : Notice}
    {r : Option Value} (h : (notify now n).run db = (.ok r, db')) :
    ∃ r', ((notify now' n).run u).1 = .ok r' := by
  have huser : ∀ now, (notificationRow now n).get "user_id" = n.userId := fun _ => rfl
  have hsame : (notificationRow now' n).get "user_id" = (notificationRow now n).get "user_id" :=
    (huser now').trans (huser now).symm
  have hcases := noticeAnswer_again hdb hu hsame
  unfold notify at h ⊢
  rw [run_attempt]
  rcases run_attempt_eq_ok.1 h with ⟨answer, hanswer, hread⟩ | ⟨f, hf, hpassed⟩
  · obtain ⟨answer', hanswer', r', hr'⟩ : ∃ answer',
        noticeAnswer u (notificationRow now' n) = .ok answer' ∧
          ∃ r', firstPart answer' = .ok r' := by
      rcases hcases with hcases | ⟨-, stored', -, hstored⟩
      · exact ⟨answer, hcases.trans hanswer, r, (run_ofExcept_eq_ok.1 hread).1⟩
      · exact ⟨_, hstored, some (.object stored'), rfl⟩
    unfold noticeAnswer at hanswer'
    rw [hanswer']
    dsimp only
    rw [run_ofExcept]
    exact ⟨r', hr'⟩
  · have hf' : noticeAnswer u (notificationRow now' n) = .error f := by
      rcases hcases with hcases | ⟨stored, -, hstored, -⟩
      · exact hcases.trans hf
      · cases hf.symm.trans hstored
    unfold noticeAnswer at hf'
    rw [hf']
    cases f with
    | rejected e =>
      dsimp only at hpassed ⊢
      cases horphan : e.isOrphanUser with
      | true =>
        rw [if_pos rfl]
        exact ⟨none, rfl⟩
      | false =>
        rw [horphan, if_neg Bool.false_ne_true] at hpassed
        cases hpassed
    | _ => cases hpassed

lemma withdraw_again (hdb : db.Firm) {kept : String → Prop} (hu : Spares kept db u)
    {types : List NotificationType} {target : TargetType} {targetId : Value} {r : Nat}
    (h : (withdraw types target targetId).run db = (.ok r, db')) :
    ∃ r', ((withdraw types target targetId).run u).1 = .ok r' := by
  unfold withdraw at h ⊢
  split
  · exact ⟨0, rfl⟩
  · next htypes =>
    rw [if_neg htypes] at h
    obtain ⟨rows, mid, hrows, -⟩ := run_bind_eq_ok.1 h
    have hok : (db.perform (.delete Table.notifications (withdrawn types target targetId))).1 =
        .ok rows := congrArg Prod.fst (run_execute_eq_ok.1 hrows)
    rcases hdb.perform_delete Table.notifications (withdrawn types target targetId) with
      ⟨f, -, hf⟩ | ⟨hnone, -⟩
    · cases hf.symm.trans hok
    rcases (hu.firm hdb).perform_delete Table.notifications (withdrawn types target targetId) with
      ⟨f, hf, -⟩ | ⟨-, found, hfound⟩
    · rw [hu.failure?_eq, hnone] at hf
      cases hf
    have hrun := run_bind_eq_ok (f := fun rows : List Row => pure rows.length).2
      ⟨found, _, run_execute_eq_ok.2 (Prod.ext hfound rfl), run_pure_eq_ok.2 ⟨rfl, rfl⟩⟩
    exact ⟨found.length, congrArg Prod.fst hrun⟩

lemma notify_leavesAlone (now : Calendar.Moment) (n : Notice) :
    (notify now n).Asks (Call.LeavesAlone (· ≠ Table.notifications)) :=
  notify_asks (.inr fun h => h rfl)

lemma withdraw_leavesAlone (types : List NotificationType) (target : TargetType)
    (targetId : Value) :
    (withdraw types target targetId).Asks (Call.LeavesAlone (· ≠ Table.notifications)) :=
  withdraw_asks (.inr fun h => h rfl)

lemma log_leavesAlone (now : Calendar.Moment) (event : Event) :
    (log now event).Asks (Call.LeavesAlone (· ∈ Table.stageAssignments :: Table.directory)) :=
  log_asks (.inr (show Table.eventLog ∉ _ by decide))
    (.inr (show Table.submissions ∉ _ by decide))

/-! ## The list of a user's assignments -/

/-- The rows of a user's assignments to a submission, in the order in which they are listed. -/
def ownRows (db : Database) (submissionId : String) (userId : Value) : List Row :=
  db.found Table.stageAssignments
    [.equals "submission_id" submissionId, .equals "user_id" userId.label] ["date_assigned", "id"]

lemma run_assignments_eq_ok (hdb : db.Firm) {submissionId : String} {userId : Value}
    {found : List StageAssignment} :
    (assignments ⟨.text submissionId, none, none, some userId⟩).run db = (.ok found, db') ↔
      db.failure? Table.stageAssignments .select = none ∧
        (ownRows db submissionId userId).mapM assignmentOf = .ok found ∧
        db.note (.select Table.stageAssignments [.equals "submission_id" submissionId,
          .equals "user_id" userId.label] ["date_assigned", "id"]) = db' := by
  change Session.run (selectAssignments [.equals "submission_id" submissionId,
    .equals "user_id" userId.label]) db = _ ↔ _
  unfold selectAssignments
  rw [run_bind_eq_ok]
  constructor
  · rintro ⟨rows, mid, hrows, hread⟩
    obtain ⟨hf, rfl, rfl⟩ := (run_lookup_eq_ok hdb).1 hrows
    obtain ⟨hfound, rfl⟩ := run_ofExcept_eq_ok.1 hread
    exact ⟨hf, hfound, rfl⟩
  · rintro ⟨hf, hfound, rfl⟩
    exact ⟨_, _, (run_lookup_eq_ok hdb).2 ⟨hf, rfl, rfl⟩, run_ofExcept_eq_ok.2 ⟨hfound, rfl⟩⟩

/-- The list of a user's assignments in a later state, in which there may be more. -/
lemma padded_ownRows (h : Grown db u) (submissionId : String) (userId : Value) :
    Padded (HasEditor u) (ownRows db submissionId userId) (ownRows u submissionId userId) := by
  obtain ⟨new, hnew, hall⟩ := h.assignments
  unfold ownRows found
  rw [hnew, List.filter_append]
  refine (Padded.append_right fun row hrow => ?_).arrange
  exact h.toSpares.hasEditor_iff.2 (hall row (List.mem_filter.1 hrow).1)

lemma mem_seats_of_listed {submissionId : String} {userId : Value}
    {found : List StageAssignment}
    (h : (ownRows db submissionId userId).mapM assignmentOf = .ok found) {a : StageAssignment}
    (ha : a ∈ found) : [submissionId, a.seat.groupId, a.seat.userId] ∈
      seats (db.rows Table.stageAssignments) := by
  obtain ⟨row, hrow, hread⟩ := exists_of_mem_mapM h ha
  obtain ⟨hmem, hmeets⟩ := mem_found.1 hrow
  have hseat : seatLabels row = a.seat.labels := (seat_of_assignmentOf hread).symm
  have hsubmission : row.label "submission_id" = submissionId := by
    rw [meets_cons, admits_equals] at hmeets
    exact hmeets.1
  refine List.mem_map.2 ⟨row, hmem, ?_⟩
  rw [hseat, Seat.labels, ← (List.cons.inj hseat).1, hsubmission]

/-! ## The store -/

/-- Nothing but notifications changes by requests that only look into the directory. -/
lemma still_of_consults {α : Type} {s : Session α} (hdb : db.Firm) (hs : s.Asks Call.Consults)
    {r : Except Fault α} (h : s.run db = (r, db')) : Still db db' :=
  run_spares hdb (hs.mono fun _ hc => hc.leavesAlone _) h

lemma knows_of_lookup {table : String} {filters : List Filter} {order : List String}
    {ids : List Row → List String} {contextId : Value} {gs : List UserGroup} (hdb : db.Firm)
    (h : Session.run (do
      let rows ← lookup table filters order
      groupsAmong (ids rows) contextId) db = (.ok gs, db')) {g : UserGroup} (hg : g ∈ gs) :
    Knows g db' := by
  obtain ⟨rows, mid, hrows, hgs⟩ := run_bind_eq_ok.1 h
  obtain ⟨-, -, rfl⟩ := (run_lookup_eq_ok hdb).1 hrows
  have hstill : Still _ db' := still_of_consults (hdb.note _) (groupsAmong_consults _ _) hgs
  exact hstill.grown.toSpares.knows_iff.2 (knows_of_groupsAmong (hdb.note _) hgs hg).1

/-- The store in the database. -/
def steadyDatabase : Steady Database where
  serve k q db := (session (.shows k) q).run db
  Sound := Certain
  Later := Grown
  Idle := Still
  Knows := Knows
  later_refl db := Still.grown (.refl _ db)
  idle_refl db := .refl _ db
  later_trans := Grown.trans
  idle_trans := Spares.trans
  later_of_idle := Still.grown
  sound_later hs h := h.toSpares.certain hs
  knows_later hg h := h.toSpares.knows_iff.2 hg
  consulted {k q s t r} hq hs h := by
    obtain ⟨hasks, -⟩ := session_consults (.shows k) (.shows k) hq
    have ht : Still s t := still_of_consults hs.toFirm hasks h
    refine ⟨ht, fun k' u hu => ⟨((session (.shows k') q).run u).2, Prod.ext ?_ rfl, ?_⟩⟩
    · rw [(session_consults (.shows k) (.shows k') hq).2,
        run_eq_of_spares hs.toFirm (ht.grown.trans hu).toSpares hasks, h]
    · obtain ⟨hasks', -⟩ := session_consults (.shows k') (.shows k') hq
      exact still_of_consults ((ht.grown.trans hu).toSpares.firm hs.toFirm) hasks' rfl
  told {k q s t r} hq hs h := by
    have hasks : ∀ k' : UtcMoment, (session (.shows k') q).Asks
        (Call.LeavesAlone (· ≠ Table.notifications)) := by
      intro k'
      cases q with
      | notify n => exact notify_leavesAlone k' n
      | withdraw types target targetId => exact withdraw_leavesAlone types target targetId
      | _ => exact absurd hq Bool.noConfusion
    have ht : Still s t := run_spares hs.toFirm (hasks k) h
    refine ⟨ht, fun k' u hu => ?_⟩
    have hsu : Grown s u := ht.grown.trans hu
    obtain ⟨r', hr'⟩ : ∃ r', ((session (.shows k') q).run u).1 = .ok r' := by
      cases q with
      | notify n => exact notify_again hs.toFirm hsu.toSpares h
      | withdraw types target targetId => exact withdraw_again hs.toFirm hsu.toSpares h
      | _ => exact absurd hq Bool.noConfusion
    exact ⟨r', _, Prod.ext hr' rfl, run_spares (hsu.toSpares.firm hs.toFirm) (hasks k') rfl⟩
  logged hs h :=
    Spares.grown (run_spares hs.toFirm (log_leavesAlone _ _) h)
  knows_of_stage hs h _ hg := knows_of_lookup hs.toFirm h hg
  knows_of_user hs h _ hg := knows_of_lookup hs.toFirm h hg
  known {k g s} hs hg := by
    obtain ⟨g', t, hrun, hrole⟩ := run_group?_of_knows hs hg
    exact ⟨g', t, hrun, hrole, still_of_consults hs.toFirm (group?_consults _) hrun⟩
  group_id {k id g s t} hs h := by
    obtain ⟨gs, hgs, hhead⟩ := run_group?_text_eq_ok.1 h
    have hmem := (knows_of_groupsAmong hs.toFirm hgs (List.mem_of_head? hhead)).2
    exact List.mem_singleton.1 hmem
  enrolled {k e s t r} hs h hgroup := by
    have hlater : Grown s t := grown_of_enroll hs.toFirm k.2 h hgroup
    refine ⟨hlater, fun k' u hu => ⟨_, run_enroll_of_isRefused
      ((hlater.trans hu).toSpares.firm hs.toFirm) ((isRefused_of_run hs.toFirm h).later hu), ?_⟩⟩
    exact spares_note _ u _
  listed {k id userId s t found} hs h := by
    obtain ⟨hf, hfound, rfl⟩ := (run_assignments_eq_ok hs.toFirm).1 h
    refine ⟨spares_note _ s _, fun k' u hu => ?_⟩
    have hsu : Grown s u := (Still.grown (spares_note _ s _)).trans hu
    obtain ⟨more, hmore, hpadded⟩ := (padded_ownRows hsu id userId).mapM hfound
    exact ⟨more, _, (run_assignments_eq_ok (hsu.toSpares.firm hs.toFirm)).2
      ⟨hsu.failure?_eq ▸ hf, hmore, rfl⟩, spares_note _ u _, hpadded⟩
  seated {k k' id userId s t u v found a flag r} hs h ha hu h' := by
    obtain ⟨hf, hfound, rfl⟩ := (run_assignments_eq_ok hs.toFirm).1 h
    have hsu : Grown s u := (Still.grown (spares_note _ s _)).trans hu
    have hseat := hsu.seats_subset (mem_seats_of_listed hfound ha)
    rcases enroll_run_cases (hsu.toSpares.firm hs.toFirm) h' with ⟨hr, -, -⟩ | ⟨-, -, hfree, -⟩
    · exact hr
    · exact absurd hseat hfree

end EditorialDesk.Store
