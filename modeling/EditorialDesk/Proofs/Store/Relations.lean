import EditorialDesk.Proofs.Intake.Distinct
import EditorialDesk.Proofs.Store.Groups
import EditorialDesk.Proofs.Store.Register

/-!
# What the rows of the directory say

Well-formed tables: identities, contexts and users are texts, groups have a role and an
identity of their own, stages are numbers. There the rows say who is a member of which
group, which group is open at a stage of which context and who is bound to a section or a
category, and the look-ups find just that.
-/
namespace EditorialDesk

namespace Database

/-- A plain database whose rows are those of an editorial office. -/
structure WellFormed (db : Database) : Prop extends db.Plain where
  groups : ∀ row ∈ db.rows Table.userGroups, (row.get "id").Names ∧
    (row.get "context_id").Names ∧ ∃ role : Role, row.get "role_id" = .int role.code
  groupIds : ((db.rows Table.userGroups).map (·.get "id")).Nodup
  stages : ∀ row ∈ db.rows Table.userGroupStages, (row.get "user_group_id").Names ∧
    (row.get "context_id").Names ∧ ∃ n : Int, row.get "stage_id" = .int n
  memberships : ∀ row ∈ db.rows Table.memberships, (row.get "user_group_id").Names ∧
    (row.get "user_id").Names
  subEditors : ∀ row ∈ db.rows Table.subEditors, (row.get "context_id").Names ∧
    (row.get "assoc_id").Names ∧ (row.get "user_id").Names
  assignees : ∀ row ∈ db.rows Table.stageAssignments, (row.get "submission_id").Names ∧
    (row.get "user_group_id").Names ∧ (row.get "user_id").Names
  dates : ∀ row ∈ db.rows Table.stageAssignments, row.get "date_assigned" = .null ∨
    ∃ m, Record.moment (row.get "date_assigned") = .accepted m

/-- A user is a member of a group. -/
def IsMember (db : Database) (groupId userId : String) : Prop :=
  ∃ row ∈ db.rows Table.memberships,
    row.get "user_group_id" = .text groupId ∧ row.get "user_id" = .text userId

/-- A user is the only member of a group. -/
def IsSoleMember (db : Database) (groupId userId : String) : Prop :=
  db.IsMember groupId userId ∧ ∀ other, db.IsMember groupId other → other = userId

/-- A group is open at a stage in a context. -/
def IsOpen (db : Database) (contextId groupId : String) (stage : Stage) : Prop :=
  ∃ row ∈ db.rows Table.userGroupStages, row.get "context_id" = .text contextId ∧
    row.get "user_group_id" = .text groupId ∧ row.get "stage_id" = .int stage.code

/-- A user is bound to a section or a category of a context. -/
def IsBound (db : Database) (contextId : String) (type : GroupingType) (id userId : String) :
    Prop :=
  ∃ row ∈ db.rows Table.subEditors, row.get "context_id" = .text contextId ∧
    row.label "assoc_type" = type.word ∧ row.get "assoc_id" = .text id ∧
      row.get "user_id" = .text userId

/-- A row is that of a group of a context with a role. -/
def IsGroup (db : Database) (contextId groupId : String) (role : Role) (row : Row) : Prop :=
  row ∈ db.rows Table.userGroups ∧ row.get "id" = .text groupId ∧
    row.get "context_id" = .text contextId ∧ row.get "role_id" = .int role.code

variable {db : Database}

lemma get?_of_get_ne_null {row : Row} {column : String} {v : Value} (h : row.get column = v)
    (hv : v ≠ .null) : row.get? column = some v := by
  unfold Fields.get at h
  cases hget : row.get? column with
  | none =>
    rw [hget] at h
    exact absurd h.symm hv
  | some w =>
    rw [hget] at h
    exact congrArg some h

lemma roleOf_eq {row : Row} {role : Role} (h : row.get "role_id" = .int role.code) :
    Store.roleOf row = .ok role := by
  have hget : row.get? "role_id" = some (.int role.code) := get?_of_get_ne_null h (by simp)
  unfold Store.roleOf
  rw [hget]
  simp [Value.toWhole, Role.ofCode?_code, Fault.needed, bind, Except.bind]

lemma orNull_of_accepted {v : Value} {m : Calendar.Moment} (h : Record.moment v = .accepted m) :
    Record.orNull Record.moment v = .accepted (some m) := by
  cases v with
  | null => cases h
  | _ => exact congrArg (Record.Checked.map some) h

/-- Where names stand in its columns and a date that can be read or null, a row gives an
assignment. -/
lemma isAssignment_of_names {row : Row} (hsub : (row.get "submission_id").Names)
    (hgroup : (row.get "user_group_id").Names) (huser : (row.get "user_id").Names)
    (hdate : row.get "date_assigned" = .null ∨
      ∃ m, Record.moment (row.get "date_assigned") = .accepted m) : Fields.IsAssignment row := by
  have hlabel : ∀ {column : String}, (row.get column).Names →
      ∃ label, Store.neededLabel row column = .ok label := by
    intro column hnames
    obtain ⟨name, hname, -⟩ := hnames
    unfold Store.neededLabel
    rw [get?_of_get_ne_null hname (by simp)]
    exact ⟨_, rfl⟩
  obtain ⟨sub, hsub⟩ := hlabel hsub
  obtain ⟨group, hgroup⟩ := hlabel hgroup
  obtain ⟨user, huser⟩ := hlabel huser
  obtain ⟨date, hdate⟩ : ∃ date, Fault.ofChecked (Store.assignedDate row) = .ok date := by
    unfold Store.assignedDate
    rcases hdate with hnull | ⟨m, hm⟩
    · rw [hnull]
      exact ⟨none, rfl⟩
    · rw [orNull_of_accepted hm]
      exact ⟨some m, rfl⟩
  unfold Fields.IsAssignment Store.assignmentOf
  rw [hsub, hgroup, huser, hdate]
  exact ⟨_, rfl⟩

theorem WellFormed.sound (h : db.WellFormed) : db.Sound where
  toPlain := h.toPlain
  roles row hrow := by
    obtain ⟨-, -, role, hrole⟩ := h.groups row hrow
    exact ⟨role, roleOf_eq hrole⟩
  assignments row hrow := by
    obtain ⟨hsub, hgroup, huser⟩ := h.assignees row hrow
    exact isAssignment_of_names hsub hgroup huser (h.dates row hrow)

theorem WellFormed.hasGroups (h : db.WellFormed) : db.HasGroups where
  ids row hrow := (h.groups row hrow).1
  nodup := h.groupIds
  roles := h.sound.roles

lemma mem_users {rows : List Row} {userId : String} :
    userId ∈ users rows ↔ userId ≠ "" ∧ ∃ row ∈ rows, row.labelOrEmpty "user_id" = userId := by
  unfold users
  rw [mem_distinct, List.mem_filter, List.mem_map, and_comm]
  simp

lemma nodup_users (rows : List Row) : (users rows).Nodup := nodup_distinct _

lemma mem_users_of_names {rows : List Row} {userId : String}
    (h : ∀ row ∈ rows, (row.get "user_id").Names) :
    userId ∈ users rows ↔ ∃ row ∈ rows, row.get "user_id" = .text userId := by
  rw [mem_users]
  constructor
  · rintro ⟨-, row, hrow, hlabel⟩
    rw [labelOrEmpty_of_names (h row hrow)] at hlabel
    exact ⟨row, hrow, (label_eq_iff (h row hrow)).1 hlabel⟩
  · rintro ⟨row, hrow, huser⟩
    have hnames := h row hrow
    have hlabel := (label_eq_iff hnames).2 huser
    refine ⟨hlabel ▸ label_ne_empty hnames, row, hrow, ?_⟩
    rw [labelOrEmpty_of_names hnames, hlabel]

/-- Users who are looked up in the order of their names stand in ascending order. -/
lemma pairwise_users (db : Database) (table : String) (filters : List Filter) :
    (users (db.found table filters ["user_id"])).Pairwise (· < ·) := by
  have hsorted : ((db.found table filters ["user_id"]).map (·.labelOrEmpty "user_id")).Pairwise
      (· ≤ ·) := List.pairwise_map.2 (pairwise_found db table filters "user_id")
  have hle : (users (db.found table filters ["user_id"])).Pairwise (· ≤ ·) :=
    (hsorted.filter _).sublist (distinctOn_sublist id _)
  exact hle.imp₂ (fun _ _ h hne => lt_of_le_of_ne h hne) (nodup_users _)

/-- The stages of a group are those of its own rows, whatever other groups are asked for. -/
lemma WellFormed.mem_stagesFor (h : db.WellFormed) {ids : List String} {groupId : String}
    {stage : Stage} (hid : groupId ∈ ids) :
    stage ∈ Store.stagesFor (db.grants ids) groupId ↔
      ∃ row ∈ db.rows Table.userGroupStages, row.get "user_group_id" = .text groupId ∧
        Stage.ofValue? (row.get "stage_id") = some stage := by
  rw [Database.mem_stagesFor]
  constructor
  · rintro ⟨row, hrow, -, hgroup, hstage⟩
    have hnames := (h.stages row hrow).1
    rw [labelOrEmpty_of_names hnames, label_eq_iff hnames] at hgroup
    exact ⟨row, hrow, hgroup, hstage⟩
  · rintro ⟨row, hrow, hgroup, hstage⟩
    have hlabel := label_of_get hgroup
    refine ⟨row, hrow, hlabel.symm ▸ hid, ?_, hstage⟩
    rw [labelOrEmpty_of_names (h.stages row hrow).1, hlabel]

lemma WellFormed.mem_groupsAmong (h : db.WellFormed) {ids : List String} {contextId : String}
    {g : UserGroup} : g ∈ db.groupsAmong ids (.text contextId) ↔
      ∃ groupId ∈ ids, ∃ role row, db.IsGroup contextId groupId role row ∧
        g = db.groupAt role row := by
  rw [h.hasGroups.mem_groupsAmong]
  constructor
  · rintro ⟨row, hmem, hid, hcontext, role, hrole, rfl⟩
    obtain ⟨hnames, hnames', role', hrole'⟩ := h.groups row hmem
    obtain rfl : role' = role := Except.ok.inj ((roleOf_eq hrole').symm.trans hrole)
    refine ⟨row.label "id", hid, role', row, ⟨hmem, (label_eq_iff hnames).1 rfl, ?_, hrole'⟩, rfl⟩
    exact (label_eq_iff hnames').1 (hcontext.resolve_left (by simp))
  · rintro ⟨groupId, hid, role, row, ⟨hmem, hget, hcontext, hrole⟩, rfl⟩
    exact ⟨row, hmem, (label_of_get hget).symm ▸ hid, .inr (label_of_get hcontext), role,
      roleOf_eq hrole, rfl⟩

lemma WellFormed.group?_eq (h : db.WellFormed) {contextId groupId : String} {role : Role}
    {row : Row} (hrow : db.IsGroup contextId groupId role row) :
    db.group? (.text groupId) = some (db.groupAt role row) :=
  h.hasGroups.group?_eq hrow.1 hrow.2.1 (roleOf_eq hrow.2.2.2)

/-- The members of a group of the context are the users that its rows name. -/
lemma WellFormed.mem_members (h : db.WellFormed) {contextId groupId userId : String}
    {role : Role} {row : Row} (hrow : db.IsGroup contextId groupId role row) :
    userId ∈ db.members (.text groupId) (.text contextId) ↔ db.IsMember groupId userId := by
  have hcontext : (db.groupAt role row).contextId = contextId := by
    unfold groupAt
    rw [labelOrEmpty_of_names (h.groups row hrow.1).2.1, label_of_get hrow.2.2.1]
  have hnames : ∀ r ∈ db.found Table.memberships [.equals "user_group_id" groupId] ["user_id"],
      (r.get "user_id").Names := fun r hr => (h.memberships r (mem_found.1 hr).1).2
  unfold members
  rw [h.group?_eq hrow]
  simp only [hcontext, Value.label_text, beq_self_eq_true, if_true]
  rw [mem_users_of_names hnames]
  constructor
  · rintro ⟨r, hr, huser⟩
    obtain ⟨hmem, hmeets⟩ := mem_found.1 hr
    have hlabel : r.label "user_group_id" = groupId := by simpa using hmeets
    exact ⟨r, hmem, (label_eq_iff (h.memberships r hmem).1).1 hlabel, huser⟩
  · rintro ⟨r, hmem, hgroup, huser⟩
    refine ⟨r, mem_found.2 ⟨hmem, ?_⟩, huser⟩
    simp [label_of_get hgroup]

/-- A list of members without others than one. -/
lemma WellFormed.members_eq_singleton (h : db.WellFormed) {contextId groupId userId : String}
    {role : Role} {row : Row} (hrow : db.IsGroup contextId groupId role row) :
    db.members (.text groupId) (.text contextId) = [userId] ↔
      db.IsSoleMember groupId userId := by
  have hnodup : (db.members (.text groupId) (.text contextId)).Nodup := by
    unfold members
    split
    · exact List.nodup_nil
    · split
      · exact nodup_users _
      · exact List.nodup_nil
  unfold IsSoleMember
  simp only [← h.mem_members hrow]
  constructor
  · intro heq
    rw [heq]
    exact ⟨List.mem_singleton.2 rfl, fun other hother => List.mem_singleton.1 hother⟩
  · rintro ⟨hmem, honly⟩
    have hperm : (db.members (.text groupId) (.text contextId)).Perm [userId] := by
      refine (List.perm_ext_iff_of_nodup hnodup (List.nodup_singleton _)).2 fun other => ?_
      rw [List.mem_singleton]
      exact ⟨honly other, fun he => he ▸ hmem⟩
    exact List.perm_singleton.1 hperm

/-- The identities that are looked up for a stage are those of the groups that are open at it. -/
lemma WellFormed.mem_openIds (h : db.WellFormed) {contextId groupId : String} {stage : Stage} :
    groupId ∈ Store.presentLabels "user_group_id" (db.found Table.userGroupStages
      [.equals "context_id" contextId, .equals "stage_id" (toString stage.code)] []) ↔
      db.IsOpen contextId groupId stage := by
  rw [mem_presentLabels fun r hr => (h.stages r (mem_found.1 hr).1).1]
  constructor
  · rintro ⟨r, hr, hgroup⟩
    obtain ⟨hmem, hmeets⟩ := mem_found.1 hr
    obtain ⟨-, hnames, n, hn⟩ := h.stages r hmem
    simp only [meets_cons, meets_nil, admits_equals, and_true] at hmeets
    refine ⟨r, hmem, (label_eq_iff hnames).1 hmeets.1, hgroup, ?_⟩
    rw [hn, (label_int_eq_iff hn).1 hmeets.2]
  · rintro ⟨r, hmem, hcontext, hgroup, hstage⟩
    refine ⟨r, mem_found.2 ⟨hmem, ?_⟩, hgroup⟩
    simp only [meets_cons, meets_nil, admits_equals, and_true]
    exact ⟨label_of_get hcontext, (label_int_eq_iff hstage).2 rfl⟩

lemma WellFormed.mem_groupsForStage (h : db.WellFormed) {contextId : String} {stage : Stage}
    {g : UserGroup} : g ∈ db.groupsForStage (.text contextId) stage ↔
      ∃ groupId role row, db.IsGroup contextId groupId role row ∧
        db.IsOpen contextId groupId stage ∧ g = db.groupAt role row := by
  unfold groupsForStage
  rw [Value.label_text, h.mem_groupsAmong]
  constructor
  · rintro ⟨groupId, hid, role, row, hrow, hg⟩
    exact ⟨groupId, role, row, hrow, h.mem_openIds.1 hid, hg⟩
  · rintro ⟨groupId, role, row, hrow, hid, hg⟩
    exact ⟨groupId, h.mem_openIds.2 hid, role, row, hrow, hg⟩

lemma WellFormed.pairwise_groupsForStage (h : db.WellFormed) (contextId : String)
    (stage : Stage) : (db.groupsForStage (.text contextId) stage).Pairwise (·.id < ·.id) :=
  h.hasGroups.pairwise_groupsAmong _ _

lemma WellFormed.mem_membershipIds (h : db.WellFormed) {groupId userId : String} :
    groupId ∈ Store.presentLabels "user_group_id"
      (db.found Table.memberships [.equals "user_id" userId] []) ↔ db.IsMember groupId userId := by
  rw [mem_presentLabels fun r hr => (h.memberships r (mem_found.1 hr).1).1]
  constructor
  · rintro ⟨r, hr, hgroup⟩
    obtain ⟨hmem, hmeets⟩ := mem_found.1 hr
    have hlabel : r.label "user_id" = userId := by simpa using hmeets
    exact ⟨r, hmem, hgroup, (label_eq_iff (h.memberships r hmem).2).1 hlabel⟩
  · rintro ⟨r, hmem, hgroup, huser⟩
    refine ⟨r, mem_found.2 ⟨hmem, ?_⟩, hgroup⟩
    simp [label_of_get huser]

lemma WellFormed.mem_groupsForUser (h : db.WellFormed) {contextId userId : String}
    {g : UserGroup} : g ∈ db.groupsForUser (.text userId) (.text contextId) ↔
      ∃ groupId role row, db.IsGroup contextId groupId role row ∧ db.IsMember groupId userId ∧
        g = db.groupAt role row := by
  unfold groupsForUser
  rw [Value.label_text, h.mem_groupsAmong]
  constructor
  · rintro ⟨groupId, hid, role, row, hrow, hg⟩
    exact ⟨groupId, role, row, hrow, h.mem_membershipIds.1 hid, hg⟩
  · rintro ⟨groupId, role, row, hrow, hid, hg⟩
    exact ⟨groupId, h.mem_membershipIds.2 hid, role, row, hrow, hg⟩

lemma WellFormed.mem_subEditors (h : db.WellFormed) {contextId id userId : String}
    {type : GroupingType} : userId ∈ db.subEditors ⟨type, .text id⟩ (.text contextId) ↔
      db.IsBound contextId type id userId := by
  unfold Database.subEditors
  rw [mem_users_of_names fun r hr => (h.subEditors r (mem_found.1 hr).1).2.2]
  constructor
  · rintro ⟨r, hr, huser⟩
    obtain ⟨hmem, hmeets⟩ := mem_found.1 hr
    obtain ⟨hcontext, hid, -⟩ := h.subEditors r hmem
    simp only [meets_cons, meets_nil, admits_equals, and_true, Value.label_text] at hmeets
    exact ⟨r, hmem, (label_eq_iff hcontext).1 hmeets.1, hmeets.2.1,
      (label_eq_iff hid).1 hmeets.2.2, huser⟩
  · rintro ⟨r, hmem, hcontext, htype, hid, huser⟩
    refine ⟨r, mem_found.2 ⟨hmem, ?_⟩, huser⟩
    simp only [meets_cons, meets_nil, admits_equals, and_true, Value.label_text]
    exact ⟨label_of_get hcontext, htype, label_of_get hid⟩

lemma WellFormed.mem_managerIds (h : db.WellFormed) {contextId groupId : String} :
    groupId ∈ Store.presentLabels "id" (db.found Table.userGroups
      [.equals "context_id" contextId, .equals "role_id" (toString Role.manager.code)] []) ↔
      ∃ row, db.IsGroup contextId groupId .manager row := by
  rw [mem_presentLabels fun r hr => (h.groups r (mem_found.1 hr).1).1]
  constructor
  · rintro ⟨r, hr, hid⟩
    obtain ⟨hmem, hmeets⟩ := mem_found.1 hr
    obtain ⟨-, hnames, role, hrole⟩ := h.groups r hmem
    simp only [meets_cons, meets_nil, admits_equals, and_true] at hmeets
    refine ⟨r, hmem, hid, (label_eq_iff hnames).1 hmeets.1, ?_⟩
    rw [hrole, (label_int_eq_iff hrole).1 hmeets.2]
  · rintro ⟨r, hmem, hid, hcontext, hrole⟩
    refine ⟨r, mem_found.2 ⟨hmem, ?_⟩, hid⟩
    simp only [meets_cons, meets_nil, admits_equals, and_true]
    exact ⟨label_of_get hcontext, (label_int_eq_iff hrole).2 rfl⟩

lemma WellFormed.mem_managers (h : db.WellFormed) {contextId userId : String} :
    userId ∈ db.managers (.text contextId) ↔ ∃ groupId row,
      db.IsGroup contextId groupId .manager row ∧ db.IsMember groupId userId := by
  unfold managers
  rw [Value.label_text, mem_users_of_names fun r hr => (h.memberships r (mem_found.1 hr).1).2]
  constructor
  · rintro ⟨r, hr, huser⟩
    obtain ⟨hmem, hmeets⟩ := mem_found.1 hr
    simp only [meets_cons, meets_nil, admits_among, and_true] at hmeets
    obtain ⟨row, hrow⟩ := h.mem_managerIds.1 hmeets
    exact ⟨_, row, hrow, r, hmem, (label_eq_iff (h.memberships r hmem).1).1 rfl, huser⟩
  · rintro ⟨groupId, row, hrow, r, hmem, hgroup, huser⟩
    refine ⟨r, mem_found.2 ⟨hmem, ?_⟩, huser⟩
    have hid := h.mem_managerIds.2 ⟨row, hrow⟩
    simpa [label_of_get hgroup] using hid

/-- A small office: a group of managers that is open at intake and has one member, and one of
sub-editors, with a member who is bound to a section. -/
def office : Database :=
  { empty with tables := [
    (Table.userGroups, [
      [("id", .text "g-1"), ("context_id", .text "ctx-1"), ("role_id", .int Role.manager.code)],
      [("id", .text "g-2"), ("context_id", .text "ctx-1"), ("role_id", .int Role.subEditor.code)]]),
    (Table.userGroupStages, [
      [("user_group_id", .text "g-1"), ("context_id", .text "ctx-1"), ("stage_id", .int 1)]]),
    (Table.memberships, [
      [("user_group_id", .text "g-1"), ("user_id", .text "u-1")],
      [("user_group_id", .text "g-2"), ("user_id", .text "u-2")]]),
    (Table.subEditors, [
      [("context_id", .text "ctx-1"), ("assoc_type", .text "section"), ("assoc_id", .text "sec-1"),
        ("user_id", .text "u-2")]]),
    (Table.notifications, [
      [("user_id", .text "u-1"), ("type", .text "approve_submission"),
        ("assoc_type", .text "submission"), ("assoc_id", .text "sub-1")]]),
    (Table.submissions, [[("id", .text "sub-1"), ("submission_progress", .int 4)]])] }

lemma names_text {s : String} (h : s ≠ "") : (Value.text s).Names := ⟨s, rfl, h⟩

theorem office_wellFormed : office.WellFormed where
  scripts := rfl
  unreadable := rfl
  replies := rfl
  unique := rfl
  groups row hrow := by
    rcases List.mem_pair.1 hrow with rfl | rfl
    · exact ⟨names_text (by decide), names_text (by decide), .manager, rfl⟩
    · exact ⟨names_text (by decide), names_text (by decide), .subEditor, rfl⟩
  groupIds := by decide
  stages row hrow := by
    obtain rfl := List.mem_singleton.1 hrow
    exact ⟨names_text (by decide), names_text (by decide), 1, rfl⟩
  memberships row hrow := by
    rcases List.mem_pair.1 hrow with rfl | rfl
    · exact ⟨names_text (by decide), names_text (by decide)⟩
    · exact ⟨names_text (by decide), names_text (by decide)⟩
  subEditors row hrow := by
    obtain rfl := List.mem_singleton.1 hrow
    exact ⟨names_text (by decide), names_text (by decide), names_text (by decide)⟩
  assignees row hrow := absurd hrow List.not_mem_nil
  dates row hrow := absurd hrow List.not_mem_nil

end Database
end EditorialDesk
