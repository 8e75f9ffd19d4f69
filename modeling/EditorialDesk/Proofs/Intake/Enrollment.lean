import EditorialDesk.Proofs.Intake.Aftermath
import EditorialDesk.Proofs.Store.Relations

/-!
# Exact enrolment

Who is enrolled by a run, told by the rows of the tables: the only member of a group of
managers or assistants that is open at intake, and every sub-editor who is bound to the
section or a category, through each of their groups. After a run the table of assignments
is the old one with a row for each of these whose seat was free.
-/
namespace EditorialDesk.Intake

open Database Store

/-- A user is a sub-editor of the section of a submission, or of one of its categories. -/
def IsSubEditor (db : Database) (s : Submission) (userId : String) : Prop :=
  (∃ id, s.sectionId = some id ∧ db.IsBound s.contextId .journalSection id userId) ∨
    ∃ id ∈ s.categoryIds, db.IsBound s.contextId .category id userId

/-- A user is to be enrolled through a group, whose role and row these are. -/
def IsWanted (db : Database) (s : Submission) (groupId userId : String) (role : Role)
    (row : Row) : Prop :=
  db.IsGroup s.contextId groupId role row ∧
    ((role = .manager ∨ role = .assistant) ∧ db.IsOpen s.contextId groupId .intake ∧
        db.IsSoleMember groupId userId ∨
      role = .subEditor ∧ db.IsMember groupId userId ∧ IsSubEditor db s userId)

/-- The row of a new assignment, but for its identity. -/
def newRow (now : Calendar.Moment) (s : Submission) (groupId userId : String)
    (recommendOnly : Bool) : Row :=
  [("submission_id", .text s.id), ("user_group_id", .text groupId), ("user_id", .text userId),
    ("recommend_only", .bool recommendOnly), ("date_assigned", .text now.columnText)]

variable {db : Database} {now : Calendar.Moment} {s : Submission} {w : Wish}

/-- The wish for a user through the group of a row. -/
def wishAt (db : Database) (role : Role) (row : Row) (userId : String) : Wish :=
  ⟨db.groupAt role row, userId, (row.get "recommend_only").isPresent⟩

lemma id_groupAt {contextId groupId : String} {role : Role} {row : Row}
    (hrow : db.IsGroup contextId groupId role row) : (db.groupAt role row).id = groupId :=
  label_of_get hrow.2.1

lemma row_wishAt {groupId userId : String} {role : Role} {row : Row}
    (hrow : db.IsGroup s.contextId groupId role row) :
    (wishAt db role row userId).row now s =
      newRow now s groupId userId (row.get "recommend_only").isPresent := by
  have hflag : ∀ b : Bool, (Value.bool b).isPresent = b := fun _ => rfl
  unfold Wish.row newRow wishAt Wish.enrollment assignmentRow Enrollment.fields
  simp only [id_groupAt hrow, hflag, List.cons_append, List.nil_append]

lemma isIntakeSingleton_iff {role : Role} :
    role.isIntakeSingleton = true ↔ role = .manager ∨ role = .assistant := by
  cases role <;> decide

/-- The wishes for single members are those for the only members of open groups. -/
lemma mem_singletonWishes (h : db.WellFormed) : w ∈ singletonWishes db s ↔
    ∃ groupId role row, db.IsGroup s.contextId groupId role row ∧
      (role = .manager ∨ role = .assistant) ∧ db.IsOpen s.contextId groupId .intake ∧
      db.IsSoleMember groupId w.userId ∧ w = wishAt db role row w.userId := by
  unfold singletonWishes
  rw [List.mem_filterMap]
  constructor
  · rintro ⟨g, hg, hwish⟩
    obtain ⟨groupId, role, row, hrow, hopen, rfl⟩ := h.mem_groupsForStage.1 hg
    unfold singletonWish? at hwish
    split at hwish
    · next hrole =>
      split at hwish
      · next userId hmembers =>
        rw [id_groupAt hrow, h.members_eq_singleton hrow] at hmembers
        obtain rfl := Option.some.inj hwish
        exact ⟨groupId, role, row, hrow, isIntakeSingleton_iff.1 hrole, hopen, hmembers, rfl⟩
      · cases hwish
    · cases hwish
  · rintro ⟨groupId, role, row, hrow, hrole, hopen, hsole, hw⟩
    refine ⟨db.groupAt role row, h.mem_groupsForStage.2 ⟨groupId, role, row, hrow, hopen, rfl⟩, ?_⟩
    have hmembers := (h.members_eq_singleton hrow).2 hsole
    have hsingle : (db.groupAt role row).role.isIntakeSingleton = true :=
      isIntakeSingleton_iff.2 hrole
    unfold singletonWish?
    rw [id_groupAt hrow, hmembers, if_pos hsingle]
    exact congrArg some hw.symm

/-- The groupings of a submission are its section and its categories. -/
lemma mem_groupings {grouping : Grouping} : grouping ∈ groupings s ↔
    (∃ id, s.sectionId = some id ∧ id ≠ "" ∧ grouping = ⟨.journalSection, .text id⟩) ∨
      ∃ id ∈ s.categoryIds, grouping = ⟨.category, .text id⟩ := by
  have hcategory : (∃ id ∈ s.categoryIds, Grouping.mk .category (.text id) = grouping) ↔
      ∃ id ∈ s.categoryIds, grouping = ⟨.category, .text id⟩ := by
    simp only [eq_comm]
  unfold groupings
  rw [List.mem_append, List.mem_map, hcategory]
  cases s.sectionId with
  | none => simp
  | some id =>
    by_cases hid : id = ""
    · simp [hid]
    · simp [hid]

lemma isSubEditor_iff (h : db.WellFormed) {userId : String} :
    (∃ grouping ∈ groupings s, userId ∈ db.subEditors grouping (.text s.contextId)) ↔
      IsSubEditor db s userId := by
  constructor
  · rintro ⟨grouping, hgrouping, huser⟩
    rcases mem_groupings.1 hgrouping with ⟨id, hid, -, rfl⟩ | ⟨id, hid, rfl⟩
    · exact .inl ⟨id, hid, h.mem_subEditors.1 huser⟩
    · exact .inr ⟨id, hid, h.mem_subEditors.1 huser⟩
  · rintro (⟨id, hid, hbound⟩ | ⟨id, hid, hbound⟩)
    · have hne : id ≠ "" := by
        rintro rfl
        obtain ⟨row, hrow, -, -, hassoc, -⟩ := hbound
        obtain ⟨-, ⟨name, hname, hne⟩, -⟩ := h.subEditors row hrow
        rw [hassoc] at hname
        exact hne (Value.text.inj hname).symm
      exact ⟨_, mem_groupings.2 (.inl ⟨id, hid, hne, rfl⟩), h.mem_subEditors.2 hbound⟩
    · exact ⟨_, mem_groupings.2 (.inr ⟨id, hid, rfl⟩), h.mem_subEditors.2 hbound⟩

lemma mem_groupingWishes (h : db.WellFormed) :
    w ∈ (groupings s).flatMap (groupingWishes db s) ↔
      ∃ groupId row, db.IsGroup s.contextId groupId .subEditor row ∧
        db.IsMember groupId w.userId ∧ IsSubEditor db s w.userId ∧
          w = wishAt db .subEditor row w.userId := by
  rw [List.mem_flatMap]
  constructor
  · rintro ⟨grouping, hgrouping, hw⟩
    obtain ⟨userId, huser, hw⟩ := List.mem_flatMap.1 hw
    obtain ⟨g, hg, rfl⟩ := List.mem_map.1 hw
    obtain ⟨hg, hrole⟩ := List.mem_filter.1 hg
    obtain ⟨groupId, role, row, hrow, hmember, rfl⟩ := h.mem_groupsForUser.1 hg
    obtain rfl : role = .subEditor := by simpa [groupAt] using hrole
    exact ⟨groupId, row, hrow, hmember, (isSubEditor_iff h).1 ⟨grouping, hgrouping, huser⟩, rfl⟩
  · rintro ⟨groupId, row, hrow, hmember, hsub, hw⟩
    obtain ⟨grouping, hgrouping, huser⟩ := (isSubEditor_iff h).2 hsub
    refine ⟨grouping, hgrouping, List.mem_flatMap.2 ⟨w.userId, huser, List.mem_map.2
      ⟨db.groupAt .subEditor row, List.mem_filter.2 ⟨?_, rfl⟩, hw.symm⟩⟩⟩
    exact h.mem_groupsForUser.2 ⟨groupId, .subEditor, row, hrow, hmember, rfl⟩

/-- Group and user tell the wish for a sub-editor. -/
lemma eq_of_key_eq (h : db.WellFormed) :
    ∀ w ∈ (groupings s).flatMap (groupingWishes db s),
      ∀ w' ∈ (groupings s).flatMap (groupingWishes db s), w.key = w'.key → w = w' := by
  intro w hw w' hw' hkey
  obtain ⟨groupId, row, hrow, -, -, hw⟩ := (mem_groupingWishes h).1 hw
  obtain ⟨groupId', row', hrow', -, -, hw'⟩ := (mem_groupingWishes h).1 hw'
  rw [hw, hw'] at hkey ⊢
  obtain ⟨hgroup, huser⟩ := Prod.mk.inj hkey
  have hid : groupId = groupId' := by
    rw [← id_groupAt hrow, ← id_groupAt hrow']
    exact hgroup
  have hsame : row = row' :=
    h.hasGroups.group_unique hrow.1 hrow'.1 (by rw [hrow.2.1, hrow'.2.1, hid])
  have huser' : w.userId = w'.userId := huser
  rw [hsame, huser']

/-- The wishes for sub-editors, one for each of their groups. -/
lemma mem_subEditorWishes (h : db.WellFormed) : w ∈ subEditorWishes db s ↔
    ∃ groupId row, db.IsGroup s.contextId groupId .subEditor row ∧
      db.IsMember groupId w.userId ∧ IsSubEditor db s w.userId ∧
        w = wishAt db .subEditor row w.userId :=
  (mem_distinctOn (eq_of_key_eq h)).trans (mem_groupingWishes h)

/-- The roster of a run is who is wanted. -/
theorem mem_roster (h : db.WellFormed) : w ∈ roster db s ↔
    ∃ groupId role row, IsWanted db s groupId w.userId role row ∧
      w = wishAt db role row w.userId := by
  unfold roster
  rw [List.mem_append, mem_singletonWishes h, mem_subEditorWishes h]
  constructor
  · intro hmem
    rcases hmem with ⟨groupId, role, row, hrow, hrole, hopen, hsole, hw⟩ |
      ⟨groupId, row, hrow, hrest, hsub, hw⟩
    · exact ⟨groupId, role, row, ⟨hrow, .inl ⟨hrole, hopen, hsole⟩⟩, hw⟩
    · exact ⟨groupId, .subEditor, row, ⟨hrow, .inr ⟨rfl, hrest, hsub⟩⟩, hw⟩
  · rintro ⟨groupId, role, row, ⟨hrow, ⟨hrole, hopen, hsole⟩ | ⟨rfl, hmember, hsub⟩⟩, hw⟩
    · exact .inl ⟨groupId, role, row, hrow, hrole, hopen, hsole, hw⟩
    · exact .inr ⟨groupId, row, hrow, hmember, hsub, hw⟩

lemma mem_seats_roster (h : db.WellFormed) {groupId userId : String} :
    [s.id, groupId, userId] ∈ seats ((roster db s).map (·.row now s)) ↔
      ∃ role row, IsWanted db s groupId userId role row := by
  unfold seats
  rw [List.map_map, List.mem_map]
  constructor
  · rintro ⟨w, hw, hseat⟩
    obtain ⟨id, role, row, hwanted, hw⟩ := (mem_roster h).1 hw
    have hlabels : [s.id, w.group.id, w.userId] = [s.id, groupId, userId] := hseat
    simp only [List.cons.injEq, and_true, true_and] at hlabels
    obtain ⟨hgroup, huser⟩ := hlabels
    have hid : w.group.id = id := by
      rw [hw]
      exact id_groupAt hwanted.1
    rw [← hid, hgroup, huser] at hwanted
    exact ⟨role, row, hwanted⟩
  · rintro ⟨role, row, hwanted⟩
    refine ⟨wishAt db role row userId, (mem_roster h).2 ⟨groupId, role, row, hwanted, rfl⟩, ?_⟩
    have hid := id_groupAt hwanted.1
    simp [wishAt, Wish.seat, Seat.labels, hid]

/-- The assignments that a run has created are read from the rows that it has added. -/
lemma Account.created_eq {base : Database} {logs : Bool} {o : Outcome} {ds : List Deed}
    {u : Database} (a : Account now base logs s o ds u) (hnow : now.offset = some .utc) :
    (ds.filterMap (Deed.storedIn? Table.stageAssignments)).map assignmentOf =
      o.created.map .ok := by
  rw [a.storedIn_assignments, a.created, List.map_filterMap, List.map_filterMap]
  refine List.filterMap_congr fun x _ => ?_
  unfold Trial.stored? Trial.assignment?
  cases x.place with
  | none => rfl
  | some place => exact congrArg some (assignmentOf_identified hnow _ place)

/-- A run on a well-formed database ends, and has then added just one row for everyone who is
wanted and whose seat was free. -/
theorem enrollment_exact (h : db.WellFormed) (hnow : now.offset = some .utc) (logs : Bool)
    (s : Submission) (submitter : Option String) : ∃ o db' rows,
      (sessionOf (.shows now) (run logs s (.ofText? submitter))).run db = (.ok o, db') ∧
      db'.rows Table.stageAssignments = db.rows Table.stageAssignments ++ rows ∧
      (seats rows).Nodup ∧
      (∀ groupId userId, [s.id, groupId, userId] ∈ seats rows ↔
        [s.id, groupId, userId] ∉ seats (db.rows Table.stageAssignments) ∧
          ∃ role row, IsWanted db s groupId userId role row) ∧
      (∀ i, (hi : i < rows.length) → ∃ groupId userId role row,
        IsWanted db s groupId userId role row ∧
          rows[i] = identified Table.stageAssignments
            ((db.rows Table.stageAssignments).length + i)
            (newRow now s groupId userId (row.get "recommend_only").isPresent)) ∧
      rows.map assignmentOf = o.created.map .ok ∧
      (seats rows).Sublist ((roster db s).map fun w => (w.seat s).labels) := by
  obtain ⟨o, ds, db', hrun, ⟨a⟩, hleads⟩ := run_alone h.sound hnow logs s (.ofText? submitter)
  have hrows := a.assignments_eq hleads h.toPlain
  rw [enter_eq_append] at hrows
  have hstored := a.storedIn_eq_added hleads h.toPlain
  have hnodup := (nodup_seats_added (db.rows Table.stageAssignments)
    ((roster db s).map (·.row now s))).1
  have hsublist := seats_added_sublist (db.rows Table.stageAssignments)
    ((roster db s).map (·.row now s))
  refine ⟨o, db', _, hrun, hrows, hnodup, fun groupId userId => ?_, fun i hi => ?_, ?_, ?_⟩
  · rw [mem_seats_added, mem_seats_roster h]
  · obtain ⟨wanted, hwanted, heq⟩ := getElem_added _ _ i hi
    obtain ⟨w, hw, rfl⟩ := List.mem_map.1 hwanted
    obtain ⟨groupId, role, row, hrow, hw⟩ := (mem_roster h).1 hw
    refine ⟨groupId, w.userId, role, row, hrow, ?_⟩
    rw [heq, ← row_wishAt hrow.1, ← hw]
  · rw [← hstored]
    exact a.created_eq hnow
  · unfold seats at hsublist
    rw [List.map_map] at hsublist
    exact hsublist

/-- A submission to the small office, at the last authoring step. -/
def paper : Submission := ⟨"sub-1", "ctx-1", some "sec-1", none, 4, none, none, none⟩

/-- The first moment of the calendar, in UTC. -/
def dawn : Calendar.Moment := ⟨⟨0, by decide⟩, some .utc⟩

lemma office_isSoleMember : office.IsSoleMember "g-1" "u-1" := by
  refine ⟨⟨_, List.mem_cons_self, rfl, rfl⟩, ?_⟩
  rintro other ⟨row, hrow, hgroup, huser⟩
  rcases List.mem_pair.1 hrow with rfl | rfl
  · exact (Value.text.inj huser).symm
  · exact absurd (Value.text.inj hgroup) (by decide)

/-- In the small office manager and sub-editor are enrolled. -/
theorem office_enrollment : office.WellFormed ∧ dawn.offset = some .utc ∧ ∃ o db',
    (sessionOf (.shows dawn) (run true paper (.ofText? none))).run office = (.ok o, db') ∧
      ["sub-1", "g-1", "u-1"] ∈ seats (db'.rows Table.stageAssignments) ∧
      ["sub-1", "g-2", "u-2"] ∈ seats (db'.rows Table.stageAssignments) := by
  have hdawn : dawn.offset = some .utc := rfl
  refine ⟨office_wellFormed, hdawn, ?_⟩
  obtain ⟨o, db', rows, hrun, hrows, -, hseats, -⟩ :=
    enrollment_exact office_wellFormed hdawn true paper none
  have hmanager : IsWanted office paper "g-1" "u-1" .manager _ :=
    ⟨⟨List.mem_cons_self, rfl, rfl, rfl⟩, .inl ⟨.inl rfl,
      ⟨_, List.mem_cons_self, rfl, rfl, rfl⟩, office_isSoleMember⟩⟩
  have heditor : IsWanted office paper "g-2" "u-2" .subEditor _ :=
    ⟨⟨List.mem_cons_of_mem _ List.mem_cons_self, rfl, rfl, rfl⟩, .inr ⟨rfl,
      ⟨_, List.mem_cons_of_mem _ List.mem_cons_self, rfl, rfl⟩,
      .inl ⟨"sec-1", rfl, _, List.mem_cons_self, rfl, rfl, rfl, rfl⟩⟩⟩
  refine ⟨o, db', hrun, ?_⟩
  rw [hrows, seats_append]
  exact ⟨List.mem_append_right _ ((hseats "g-1" "u-1").2 ⟨List.not_mem_nil, _, _, hmanager⟩),
    List.mem_append_right _ ((hseats "g-2" "u-2").2 ⟨List.not_mem_nil, _, _, heditor⟩)⟩

end EditorialDesk.Intake
