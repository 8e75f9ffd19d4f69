import EditorialDesk.Proofs.Intake.Determinacy
import EditorialDesk.Proofs.Store.Rearranged

/-!
# The order of rows does not matter

In what order the database holds groups, their stages, members, sub-editors and
assignments has no bearing on a run. It comes to the same outcome, adds the same rows in
the same order and leaves all else alike.
-/
namespace EditorialDesk.Intake

open Database Store

variable {now : Calendar.Moment} {base base' db db' t u : Database} {logs : Bool} {s : Submission}
variable {o : Outcome} {ds : List Deed}

/-- The wishes for single members stand in the order of their groups. -/
lemma singletonWishes_eq (h : Rearranged db db') (hdb : db.WellFormed) :
    singletonWishes db' s = singletonWishes db s := by
  unfold singletonWishes
  rw [h.groupsForStage_eq hdb]
  refine List.filterMap_congr fun g hg => ?_
  obtain ⟨groupId, role, row, hrow, -, rfl⟩ := hdb.mem_groupsForStage.1 hg
  unfold singletonWish?
  rw [id_groupAt hrow, h.members_eq hdb hrow]

/-- The wishes for sub-editors stand in the order of the groupings, the users and their groups. -/
lemma subEditorWishes_eq (h : Rearranged db db') (hdb : db.WellFormed) :
    subEditorWishes db' s = subEditorWishes db s := by
  have huser : ∀ userId, userWishes db' s userId = userWishes db s userId := by
    intro userId
    unfold userWishes
    rw [h.groupsForUser_eq hdb]
  unfold subEditorWishes
  congr 1
  refine List.flatMap_congr fun grouping hgrouping => ?_
  obtain ⟨type, id, rfl⟩ : ∃ type id, grouping = ⟨type, .text id⟩ := by
    rcases mem_groupings.1 hgrouping with ⟨id, -, -, rfl⟩ | ⟨id, -, rfl⟩
    · exact ⟨_, _, rfl⟩
    · exact ⟨_, _, rfl⟩
  unfold groupingWishes
  rw [h.subEditors_eq hdb]
  exact List.flatMap_congr fun userId _ => huser userId

/-- An account that refers to one directory refers to any other that says the same. -/
def Account.transport (a : Account now base' logs s o ds u)
    (hsingles : singletonWishes base' s = singletonWishes base s)
    (heditors : subEditorWishes base' s = subEditorWishes base s)
    (hmanagers : base'.managers (.text s.contextId) = base.managers (.text s.contextId))
    (horphans : base'.orphans = base.orphans) : Account now base logs s o ds u :=
  have hnotified : notifiedUsers base' s = notifiedUsers base s := by
    unfold notifiedUsers
    rw [hsingles, heditors]
  have hrecipients : recipients base' s = recipients base s := by
    unfold recipients
    rw [hnotified, hmanagers]
  have htype : sentType base' s = sentType base s := by
    unfold sentType
    rw [hnotified]
  have hlevel : sentLevel base' s = sentLevel base s := by
    unfold sentLevel
    rw [hnotified]
  { first := a.first
    carried := a.carried
    last := a.last
    extra := a.extra
    sent := a.sent
    first_wishes := hsingles ▸ a.first_wishes
    carried_wishes := hsingles ▸ a.carried_wishes
    wishes := heditors ▸ hsingles ▸ a.wishes
    carried_place := a.carried_place
    taken := a.taken
    sent_eq := by
      have hsent := a.sent_eq
      unfold Delivers at hsent ⊢
      rwa [hrecipients, htype, hlevel, horphans] at hsent
    deeds := a.deeds
    created := a.created
    notifyUserIds := a.notifyUserIds.trans hnotified
    notifications := by rw [a.notifications, hrecipients, htype, hlevel]
    escalated := by rw [a.escalated, hnotified] }

/-- Two runs on databases that differ in the order of rows only: they end with the same outcome and
add the same assignments in the same order; after them the databases differ as they did before, so
that log, notifications and submissions are the same. -/
theorem run_order_free (h : db.WellFormed) (hr : Rearranged db db')
    (hnow : now.offset = some .utc) (logs : Bool) (s : Submission) (submitter : Option String) :
    let session := sessionOf (.shows now) (run logs s (.ofText? submitter))
    ∃ o added, (session.run db).1 = .ok o ∧ (session.run db').1 = .ok o ∧
      (session.run db).2.rows Table.stageAssignments =
        db.rows Table.stageAssignments ++ added ∧
      (session.run db').2.rows Table.stageAssignments =
        db'.rows Table.stageAssignments ++ added ∧
      Rearranged (session.run db).2 (session.run db').2 := by
  intro session
  have h' := hr.wellFormed h
  obtain ⟨o, ds, u, hrun, ⟨a⟩, hleads⟩ := run_alone h.sound hnow logs s (.ofText? submitter)
  obtain ⟨o', ds', u', hrun', ⟨a'⟩, hleads'⟩ :=
    run_alone h'.sound hnow logs s (.ofText? submitter)
  obtain ⟨rfl, ⟨added, hadded, hadded'⟩, htables⟩ := a.determined h hnow
    (a'.transport (singletonWishes_eq hr h) (subEditorWishes_eq hr h) (hr.managers_eq h _)
      hr.orphans)
    hleads hleads' h.toPlain h'.toPlain hr.orphans (hr.perm _ (by decide))
  have hsession : session.run db = (.ok o', u) := hrun
  have hsession' : session.run db' = (.ok o', u') := hrun'
  rw [hsession, hsession']
  have hlater := hleads.later h.toPlain
  have hlater' := hleads'.later h'.toPlain
  refine ⟨o', added, rfl, rfl, hadded, hadded', ⟨?_, fun table ht => ?_, fun table ht => ?_⟩⟩
  · rw [← hlater'.frame, ← hlater.frame, ← hr.frame]
  · rcases List.mem_cons.1 ht with rfl | hdirectory
    · rw [hadded, hadded']
      exact (hr.perm _ ht).append_right added
    · rw [hlater.directory table hdirectory, hlater'.directory table hdirectory]
      exact hr.perm _ ht
  · have hne : table ≠ Table.stageAssignments := by
      rintro rfl
      exact ht List.mem_cons_self
    exact htables table hne (hr.same _ ht)

/-- In the small office it does not matter whether the member of the managers or that of the
sub-editors comes first. -/
theorem office_order_free : office.WellFormed ∧ dawn.offset = some .utc ∧
    ∃ db', Rearranged office db' ∧ db'.rows Table.memberships ≠ office.rows Table.memberships ∧
      ∃ o, ((sessionOf (.shows dawn) (run true paper (.ofText? none))).run office).1 = .ok o ∧
        ((sessionOf (.shows dawn) (run true paper (.ofText? none))).run db').1 = .ok o := by
  have hdawn : dawn.offset = some .utc := rfl
  have hr := rearranged_setRows office (show Table.memberships ∈ Table.unordered by decide)
    (List.reverse_perm (office.rows Table.memberships))
  refine ⟨office_wellFormed, hdawn, _, hr, ?_, ?_⟩
  · rw [rows_setRows_self]
    decide
  · obtain ⟨o, -, hfirst, hsecond, -⟩ :=
      run_order_free office_wellFormed hr hdawn true paper none
    exact ⟨o, hfirst, hsecond⟩

end EditorialDesk.Intake
