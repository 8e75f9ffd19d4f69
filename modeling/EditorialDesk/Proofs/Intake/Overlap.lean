import EditorialDesk.Proofs.Database.Overlap
import EditorialDesk.Proofs.Intake.Routing

/-!
# Two runs for one submission

Two runs of the routine may overlap in any order of their queries. Where both want a seat
one of them gets it, creates the assignment and logs it; in the end the seats are those
that one run alone would have taken. Both notify the same users, and what one run has sent
the other does not withdraw.
-/
namespace EditorialDesk.Intake

open Database Store

/-- The seat that an entry of the log tells of, as labels, if it is about a participant. -/
def participant? (row : Row) : Option (List String) :=
  if row.get "event_type" = .text EventType.participantAssigned.word then
    match row.get "params" with
    | .object params => some [row.label "submission_id", Fields.label params "user_group_id",
        Fields.label params "user_id"]
    | _ => none
  else none

/-- Rows are those stored for the notifications of an outcome whose users are no orphans. -/
def AreStored (now : Calendar.Moment) (orphans : List Value) (o : Outcome) (rows : List Row) :
    Prop :=
  List.Forall₂ (fun r row => ∃ place, row = noticeAt now r.notice place)
    (o.notifications.filter fun r => Value.text r.userId ∉ orphans) rows

variable {now : Calendar.Moment} {base : Database} {logs : Bool} {s : Submission}
variable {o : Outcome} {ds : List Deed} {u : Database}

/-- The last trials are of sub-editors. -/
lemma Account.wish_mem_of_last (a : Account now base logs s o ds u) {x : Trial}
    (hx : x ∈ a.last) : x.wish ∈ subEditorWishes base s := by
  obtain ⟨more, heq, hsub⟩ := distinctOn_append Wish.key (singletonWishes base s ++ a.extra)
    (subEditorWishes base s)
  have hall := a.wishes
  rw [List.map_append, a.carried_wishes, heq] at hall
  exact hsub (List.append_cancel_left hall ▸ List.mem_map_of_mem hx)

/-- A trial that has found a free seat was for somebody on the roster. -/
lemma Account.wish_mem_roster (a : Account now base logs s o ds u) {x : Trial}
    (hx : x ∈ a.trials) (hplace : x.place ≠ none) : x.wish ∈ roster base s := by
  rcases List.mem_append.1 hx with hx | hx
  · rcases List.mem_append.1 hx with hx | hx
    · have hwish : x.wish ∈ distinctOn Wish.key (singletonWishes base s) :=
        a.first_wishes ▸ List.mem_map_of_mem hx
      exact List.mem_append_left _ (mem_of_mem_distinctOn hwish)
    · exact absurd (a.carried_place x hx) hplace
  · exact List.mem_append_right _ (a.wish_mem_of_last hx)

/-- Everybody on the roster has the seat in the end. -/
lemma Account.seat_mem_of_roster (a : Account now base logs s o ds u) {w : Wish}
    (hw : w ∈ roster base s) : (w.seat s).labels ∈ seats (u.rows Table.stageAssignments) := by
  have hkey : w.key ∈ (singletonWishes base s ++ a.extra ++ subEditorWishes base s).map
      Wish.key := by
    refine List.mem_map_of_mem ?_
    rcases List.mem_append.1 hw with hw | hw
    · exact List.mem_append_left _ (List.mem_append_left _ hw)
    · exact List.mem_append_right _ hw
  rw [← mem_map_distinctOn, ← a.wishes, List.map_map] at hkey
  obtain ⟨x, hx, hsame⟩ := List.mem_map.1 hkey
  rw [← Wish.seat_eq_iff.2 hsame]
  exact a.taken x hx

lemma Account.seats_stored_subset (a : Account now base logs s o ds u) :
    seats (ds.filterMap (Deed.storedIn? Table.stageAssignments)) ⊆
      (roster base s).map fun w => (w.seat s).labels := by
  intro x hx
  rw [a.storedIn_assignments] at hx
  obtain ⟨row, hrow, rfl⟩ := List.mem_map.1 hx
  obtain ⟨trial, htrial, hstored⟩ := List.mem_filterMap.1 hrow
  obtain ⟨place, hplace, rfl⟩ := Option.map_eq_some_iff.1 hstored
  refine List.mem_map.2 ⟨trial.wish, a.wish_mem_roster htrial (by simp [hplace]), ?_⟩
  simp

/-- The seats that a run has taken are those of the assignments that it has created. -/
lemma Account.seats_stored_eq (a : Account now base logs s o ds u) :
    seats (ds.filterMap (Deed.storedIn? Table.stageAssignments)) =
      o.created.map (·.seat.labels) := by
  unfold seats
  rw [a.storedIn_assignments, a.created, List.map_filterMap, List.map_filterMap]
  refine List.filterMap_congr fun x _ => ?_
  unfold Trial.stored? Trial.assignment?
  cases x.place with
  | none => rfl
  | some place => simp [assignmentAt, Seat.labels, Wish.enrollment, Wish.seat]

/-- A run that logs has one entry for each seat that it has taken. -/
lemma Account.participants_eq (a : Account now base true s o ds u) :
    (ds.filterMap (Deed.storedIn? Table.eventLog)).map participant? =
      (seats (ds.filterMap (Deed.storedIn? Table.stageAssignments))).map some := by
  unfold seats
  rw [a.storedIn_log, a.storedIn_assignments, List.map_map, List.map_filterMap,
    List.map_filterMap]
  refine List.filterMap_congr fun x _ => ?_
  unfold Trial.stored? Trial.logged?
  cases x.place with
  | none => rfl
  | some place =>
    simp only [Option.isSome_some, Bool.and_self, if_true, Option.map_some, Function.comp_apply,
      seatLabels_identified, Wish.seatLabels_row]
    rfl

/-- What can be asked of the deeds of a run is asked of its trials, of what it has sent and of the
two withdrawals. -/
lemma Account.forall_deeds (a : Account now base logs s o ds u) {P : Deed → Prop}
    (htrials : ∀ x : Trial, ∀ d ∈ x.deeds now logs s, P d)
    (hsent : ∀ userId place, P (.notifies now
      (requestTo s (sentType base s) (sentLevel base s) userId).notice place))
    (hpending : P (.withdraws NotificationType.pendingDecisions .submission (.text s.id)))
    (happroval : P (.withdraws [.approveSubmission] .submission (.text s.id))) :
    ∀ d ∈ ds, P d := by
  intro d hd
  rw [a.deeds] at hd
  rcases List.mem_append.1 hd with hd | hd
  · obtain ⟨x, -, hd⟩ := List.mem_flatMap.1 hd
    exact htrials x d hd
  rcases List.mem_cons.1 hd with rfl | hd
  · exact hpending
  rcases List.mem_append.1 hd with hd | hd
  · obtain ⟨userId, place, rfl⟩ := eq_notifies_of_mem a.sent_eq hd
    exact hsent userId place
  · obtain rfl := List.mem_singleton.1 hd
    exact happroval

/-- A run withdraws nothing of a kind that it sends. -/
lemma Account.routes (a : Account now base logs s o ds u) : ∀ d ∈ ds, Routes d := by
  refine a.forall_deeds (fun x d hd htable => ?_) (fun userId place _ => ?_) (fun _ => ?_)
    fun _ => ?_
  · exact absurd htable.symm (table_ne_of_mem_deeds hd)
  · refine .inl ⟨now, _, place, rfl, ?_⟩
    change sentType base s ∈ sentTypes
    unfold sentType
    split <;> decide
  · exact .inr ⟨_, _, _, rfl, by decide⟩
  · exact .inr ⟨_, _, _, rfl, by decide⟩

lemma stored_sent {type : NotificationType} {level : NotificationLevel} {users : List String}
    {sent : List Deed} (h : List.Forall₂ (Delivers now base s type level) users sent) :
    List.Forall₂ (fun r row => ∃ place, row = noticeAt now r.notice place)
      ((users.map (requestTo s type level)).filter fun r => Value.text r.userId ∉ base.orphans)
      (sent.filterMap (Deed.storedIn? Table.notifications)) := by
  induction h with
  | nil => exact .nil
  | @cons userId d users sent hd _ ih =>
    obtain ⟨place, rfl, horphan⟩ := hd
    have huser : (requestTo s type level userId).userId = userId := rfl
    rw [List.map_cons, List.filter_cons, huser, List.filterMap_cons]
    cases place with
    | none =>
      have hmem := horphan.1 rfl
      simpa [Deed.storedIn?, Deed.notifies, Call.table, hmem] using ih
    | some place =>
      have hmem : Value.text userId ∉ base.orphans := fun hmem =>
        Option.some_ne_none place (horphan.2 hmem)
      simp only [hmem, not_false_eq_true, decide_true, if_true]
      exact .cons ⟨place, rfl⟩ ih

lemma Account.areStored (a : Account now base logs s o ds u) :
    AreStored now base.orphans o (ds.filterMap (Deed.storedIn? Table.notifications)) := by
  have htrials : ((a.first ++ a.carried ++ a.last).flatMap (·.deeds now logs s)).filterMap
      (Deed.storedIn? Table.notifications) = [] := by
    rw [List.filterMap_eq_nil_iff]
    intro d hd
    obtain ⟨x, -, hd⟩ := List.mem_flatMap.1 hd
    exact if_neg (table_ne_of_mem_deeds hd).symm
  have hwithdraws : ∀ types target id,
      (Deed.withdraws types target id).storedIn? Table.notifications = none := fun _ _ _ => rfl
  have hall : ds.filterMap (Deed.storedIn? Table.notifications) =
      a.sent.filterMap (Deed.storedIn? Table.notifications) := by
    refine (congrArg (List.filterMap _) a.deeds).trans ?_
    rw [List.filterMap_append, htrials, List.filterMap_cons, hwithdraws, List.filterMap_append,
      List.filterMap_cons, hwithdraws]
    simp
  unfold AreStored
  rw [hall, a.notifications]
  exact stored_sent a.sent_eq

/-- How two runs for one submission have ended that began on `db`, where one run alone would have
left `alone`. -/
structure Concord (now now' : Calendar.Moment) (db alone : Database) (o o' : Outcome)
    (final : Database) : Prop where
  /-- No seat is taken twice. -/
  once : (seats (final.rows Table.stageAssignments)).Nodup
  /-- The seats are those that one run alone would have taken. -/
  same : ∀ x, x ∈ seats (final.rows Table.stageAssignments) ↔
    x ∈ seats (alone.rows Table.stageAssignments)
  /-- Each new seat is in the list of one of the runs, and is told of by one entry of the log. -/
  created : ∃ added logged,
    final.rows Table.stageAssignments = db.rows Table.stageAssignments ++ added ∧
    ((o.created ++ o'.created).map (·.seat.labels)).Perm (seats added) ∧
    final.rows Table.eventLog = db.rows Table.eventLog ++ logged ∧
    (logged.map participant?).Perm ((seats added).map some)
  notified : o.notifyUserIds = o'.notifyUserIds ∧ o.escalated = o'.escalated
  /-- What was sent by either run is still there, behind what is left of the old notifications. -/
  sent : ∃ kept added stored stored', final.rows Table.notifications = kept ++ added ∧
    kept.Sublist (db.rows Table.notifications) ∧ added.Perm (stored ++ stored') ∧
    AreStored now db.orphans o stored ∧ AreStored now' db.orphans o' stored'

variable {now' : Calendar.Moment} {o' : Outcome} {ds' all : List Deed}
variable {u' db alone final : Database}

/-- What two runs have stored in a table is what both have stored together. -/
lemma storedIn_perm (hmerged : all.Perm (ds ++ ds')) (table : String) :
    (all.filterMap (Deed.storedIn? table)).Perm
      (ds.filterMap (Deed.storedIn? table) ++ ds'.filterMap (Deed.storedIn? table)) := by
  rw [← List.filterMap_append]
  exact hmerged.filterMap _

/-- Each seat that two runs have taken together is one that one of them has taken. -/
lemma seats_stored_perm (hmerged : all.Perm (ds ++ ds')) :
    (seats (all.filterMap (Deed.storedIn? Table.stageAssignments))).Perm
      (seats (ds.filterMap (Deed.storedIn? Table.stageAssignments)) ++
        seats (ds'.filterMap (Deed.storedIn? Table.stageAssignments))) := by
  rw [← seats_append]
  exact (storedIn_perm hmerged _).map _

section Accounts

variable (h : db.WellFormed) (hleads : Leads db all final) (hmerged : all.Perm (ds ++ ds'))
variable (a : Account now db true s o ds u) (a' : Account now' db true s o' ds' u')

include h hleads hmerged a a'

lemma mem_seats_of_accounts (hu : Later u final) (x : List String) :
    x ∈ seats (final.rows Table.stageAssignments) ↔
      x ∈ seats (db.rows Table.stageAssignments) ∨
        x ∈ (roster db s).map fun w => (w.seat s).labels := by
  have happend : final.rows Table.stageAssignments = db.rows Table.stageAssignments ++
      all.filterMap (Deed.storedIn? Table.stageAssignments) :=
    hleads.rows_append h.toPlain (by decide) (by decide)
  constructor
  · intro hx
    rw [happend, seats_append, List.mem_append, (seats_stored_perm hmerged).mem_iff,
      List.mem_append] at hx
    rcases hx with hx | hx | hx
    · exact .inl hx
    · exact .inr (a.seats_stored_subset hx)
    · exact .inr (a'.seats_stored_subset hx)
  · intro hx
    rcases hx with hx | hx
    · exact seats_subset (hleads.later h.toPlain).assignments hx
    · obtain ⟨w, hw, rfl⟩ := List.mem_map.1 hx
      exact seats_subset hu.assignments (a.seat_mem_of_roster hw)

/-- After two runs what they have sent stands behind what is left of the old notifications. -/
lemma notices_of_accounts : ∃ kept, kept.Sublist (db.rows Table.notifications) ∧
    final.rows Table.notifications =
      kept ++ all.filterMap (Deed.storedIn? Table.notifications) := by
  have hroutes : ∀ d ∈ all, Routes d := by
    intro d hd
    rcases List.mem_append.1 (hmerged.mem_iff.1 hd) with hd | hd
    · exact a.routes d hd
    · exact a'.routes d hd
  exact notices_eq hleads h.toPlain hroutes (List.append_nil (db.rows Table.notifications)).symm
    fun row hrow => absurd hrow List.not_mem_nil

/-- Two runs whose deeds lead to a state are in concord there. -/
lemma concord_of_accounts (hu : Later u final)
    (hseats : (seats (db.rows Table.stageAssignments)).Nodup)
    (halone : alone.rows Table.stageAssignments =
      enter (db.rows Table.stageAssignments) ((roster db s).map (·.row now s))) :
    Concord now now' db alone o o' final where
  once := by
    rw [hleads.assignments_eq h.toPlain]
    exact nodup_seats_enter hseats _
  same x := by
    have hroster : seats ((roster db s).map (·.row now s)) =
        (roster db s).map fun w => (w.seat s).labels := by
      unfold seats
      rw [List.map_map]
      rfl
    rw [halone, mem_seats_enter, hroster, mem_seats_of_accounts h hleads hmerged a a' hu]
  created := by
    have hadded := seats_stored_perm hmerged
    refine ⟨_, _, hleads.rows_append h.toPlain (by decide) (by decide), ?_,
      hleads.rows_append h.toPlain (by decide) (by decide), ?_⟩
    · rw [List.map_append, ← a.seats_stored_eq, ← a'.seats_stored_eq]
      exact hadded.symm
    · refine ((storedIn_perm hmerged _).map _).trans ?_
      rw [List.map_append, a.participants_eq, a'.participants_eq, ← List.map_append]
      exact hadded.symm.map _
  notified := ⟨a.notifyUserIds.trans a'.notifyUserIds.symm, a.escalated.trans a'.escalated.symm⟩
  sent := by
    obtain ⟨kept, hkept, heq⟩ := notices_of_accounts h hleads hmerged a a'
    exact ⟨kept, _, _, _, heq, hkept, storedIn_perm hmerged _, a.areStored, a'.areStored⟩

end Accounts

/-- Two runs for one submission, both of which log, come to an end whatever the order of their
queries, and then they have both returned and are in concord. -/
theorem overlap_concord (h : db.WellFormed)
    (hseats : (seats (db.rows Table.stageAssignments)).Nodup)
    (hnow : now.offset = some .utc) (hnow' : now'.offset = some .utc) (s : Submission)
    (submitter submitter' : Option String) :
    let first := sessionOf (.shows now) (run true s (.ofText? submitter))
    let second := sessionOf (.shows now') (run true s (.ofText? submitter'))
    Acc (fun y x => Overlap.Step x y) ⟨first, second, db⟩ ∧
    ∀ x, Relation.ReflTransGen Overlap.Step ⟨first, second, db⟩ x → x.IsOver →
      ∃ o o', x.first = .done o ∧ x.second = .done o' ∧
        Concord now now' db (first.run db).2 o o' x.database := by
  intro first second
  refine ⟨Overlap.acc_step _, fun x hsteps hover => ?_⟩
  have hfirst := runSession_meets h.sound hnow true s (.ofText? submitter)
  have hsecond := runSession_meets h.sound hnow' true s (.ofText? submitter')
  obtain ⟨t⟩ := (Overlap.Tally.start hfirst hsecond).steps h.toPlain hsteps
  obtain ⟨o, o', ho, ho', ⟨a⟩, ⟨a'⟩⟩ := t.over hover
  obtain ⟨_, ds, alone, hrun, ⟨b⟩, hleads⟩ := run_alone h.sound hnow true s (.ofText? submitter)
  refine ⟨o, o', ho, ho', ?_⟩
  rw [hrun]
  exact concord_of_accounts h t.leads t.merged a a' t.laterFirst hseats
    (b.assignments_eq hleads h.toPlain)

/-- In the small office two runs for one submission can both be carried to their end, and are then
in concord. -/
theorem office_concord : office.WellFormed ∧
    (seats (office.rows Table.stageAssignments)).Nodup ∧ dawn.offset = some .utc ∧
    let session := sessionOf (.shows dawn) (run true paper (.ofText? none))
    ∃ x o o', Relation.ReflTransGen Overlap.Step ⟨session, session, office⟩ x ∧
      x.first = .done o ∧ x.second = .done o' ∧
      Concord dawn dawn office (session.run office).2 o o' x.database := by
  have hseats : (seats (office.rows Table.stageAssignments)).Nodup := List.nodup_nil
  have hdawn : dawn.offset = some .utc := rfl
  refine ⟨office_wellFormed, hseats, hdawn, ?_⟩
  intro session
  obtain ⟨-, hall⟩ := overlap_concord office_wellFormed hseats hdawn hdawn paper none none
  obtain ⟨x, hsteps, hover⟩ := Overlap.exists_isOver ⟨session, session, office⟩
  obtain ⟨o, o', ho, ho', hconcord⟩ := hall x hsteps hover
  exact ⟨x, o, o', hsteps, ho, ho', hconcord⟩

end EditorialDesk.Intake
