import EditorialDesk.Proofs.Store.Relations
import EditorialDesk.Proofs.Text.Grammar
import EditorialDesk.Store.Memory
import Mathlib.Data.Set.List

/-!
# A store in memory and its mirror in the database

An orderly store in memory lists groups, members and sub-editors in ascending order. Its
mirror has one row for each of them. The look-ups in the rows, which are filtered, sorted
and rid of repeats, then find what the lists hold, in the same order; only managers, who
are gathered from several groups, are found in an order of their own.
-/
namespace EditorialDesk

namespace Store

open Database

/-- Users named by texts, in ascending order. -/
def IsUserList (users : List Value) : Prop :=
  ∃ names : List String, users = names.map .text ∧ names.Pairwise (· < ·) ∧ "" ∉ names

lemma IsUserList.exists_text {users : List Value} (h : IsUserList users) {v : Value}
    (hv : v ∈ users) : ∃ name, v = .text name := by
  obtain ⟨names, rfl, -⟩ := h
  obtain ⟨name, -, rfl⟩ := List.mem_map.1 hv
  exact ⟨name, rfl⟩

lemma IsUserList.ne_empty {users : List Value} (h : IsUserList users) {name : String}
    (hname : .text name ∈ users) : name ≠ "" := by
  obtain ⟨names, rfl, -, hne⟩ := h
  obtain ⟨name', hname', he⟩ := List.mem_map.1 hname
  rintro rfl
  exact hne (Value.text.inj he ▸ hname')

namespace Memory

/-- The users who are bound to a section or a category. -/
def boundTo (m : Memory) (type : GroupingType) (id : String) : List Value :=
  (m.bindings.filter fun b => b.grouping == ⟨type, .text id⟩).map (·.userId)

/-- All services work, identities and contexts are texts that are not empty, stages stand in their
order, and so do groups, members and sub-editors. -/
structure Orderly (m : Memory) : Prop where
  outages : m.outages = []
  names : ∀ r ∈ m.rosters, r.group.id ≠ "" ∧ r.group.contextId ≠ ""
  stages : ∀ r ∈ m.rosters, Stage.gather r.group.stages = r.group.stages
  groups : (m.rosters.map (·.group.id)).Pairwise (· < ·)
  members : ∀ r ∈ m.rosters, IsUserList r.members
  groupings : ∀ b ∈ m.bindings, ∃ id, b.grouping.id = .text id ∧ id ≠ ""
  bindings : ∀ type id, IsUserList (m.boundTo type id)

end Memory

/-! ## The rows of the mirror -/

def groupRow (g : UserGroup) : Row :=
  [("id", .text g.id), ("context_id", .text g.contextId), ("role_id", .int g.role.code),
    ("name", .text g.name), ("recommend_only", .bool g.recommendOnly)]

def stageRow (g : UserGroup) (stage : Stage) : Row :=
  [("user_group_id", .text g.id), ("context_id", .text g.contextId), ("stage_id", .int stage.code)]

def memberRow (g : UserGroup) (userId : Value) : Row :=
  [("user_group_id", .text g.id), ("user_id", userId)]

def bindingRow (contextId : String) (b : Binding) : Row :=
  [("context_id", .text contextId), ("assoc_type", .text b.grouping.type.word),
    ("assoc_id", b.grouping.id), ("user_id", b.userId)]

/-- A row from which the seat of an assignment can be read. -/
def IsRowOf (a : StageAssignment) (row : Row) : Prop :=
  ∃ b, assignmentOf row = .ok b ∧ b.seat = a.seat

/-- A plain database has one row for each group, for each stage and each member of a group, for each
sub-editor, in the given context, and for each assignment. -/
structure Mirrors (m : Memory) (contextId : String) (db : Database) : Prop extends db.Plain where
  groups : db.rows Table.userGroups = m.rosters.map fun r => groupRow r.group
  stages : db.rows Table.userGroupStages =
    m.rosters.flatMap fun r => r.group.stages.map (stageRow r.group)
  memberships : db.rows Table.memberships =
    m.rosters.flatMap fun r => r.members.map (memberRow r.group)
  subEditors : db.rows Table.subEditors = m.bindings.map (bindingRow contextId)
  assignments : List.Forall₂ IsRowOf m.assignments (db.rows Table.stageAssignments)

/-- The row of an assignment, but for its date. -/
def assignedRow (a : StageAssignment) : Row :=
  [("id", .ofText? a.id), ("submission_id", .text a.seat.submissionId),
    ("user_group_id", .text a.seat.groupId), ("user_id", .text a.seat.userId),
    ("recommend_only", .bool a.recommendOnly)]

/-- The database that has these rows and no others. -/
def Memory.mirror (m : Memory) (contextId : String) : Database :=
  { Database.empty with tables := [
    (Table.userGroups, m.rosters.map fun r => groupRow r.group),
    (Table.userGroupStages, m.rosters.flatMap fun r => r.group.stages.map (stageRow r.group)),
    (Table.memberships, m.rosters.flatMap fun r => r.members.map (memberRow r.group)),
    (Table.subEditors, m.bindings.map (bindingRow contextId)),
    (Table.stageAssignments, m.assignments.map assignedRow)] }

lemma isRowOf_assignedRow (a : StageAssignment) : IsRowOf a (assignedRow a) := by
  obtain ⟨id, seat, recommendOnly, date⟩ := a
  cases id with
  | none => exact ⟨⟨none, seat, recommendOnly, none⟩, rfl, rfl⟩
  | some id => exact ⟨⟨some id, seat, recommendOnly, none⟩, rfl, rfl⟩

theorem mirror_mirrors (m : Memory) (contextId : String) :
    Mirrors m contextId (m.mirror contextId) where
  scripts := rfl
  unreadable := rfl
  replies := rfl
  unique := rfl
  groups := rfl
  stages := rfl
  memberships := rfl
  subEditors := rfl
  assignments := by
    have hrows : (m.mirror contextId).rows Table.stageAssignments =
        m.assignments.map assignedRow := rfl
    rw [hrows, List.forall₂_map_right_iff, List.forall₂_same]
    exact fun a _ => isRowOf_assignedRow a

variable {m : Memory} {contextId : String} {db : Database} {r : Roster}

/-- Groups with one identity are the same. -/
lemma Memory.Orderly.roster_unique (hm : m.Orderly) {r' : Roster} (hr : r ∈ m.rosters)
    (hr' : r' ∈ m.rosters) (hid : r.group.id = r'.group.id) : r = r' :=
  List.inj_on_of_nodup_map (hm.groups.imp ne_of_lt) hr hr' hid

lemma seatLabels_of_isRowOf {a : StageAssignment} {row : Row} (h : IsRowOf a row) :
    a.seat.labels = seatLabels row := by
  obtain ⟨b, hb, hseat⟩ := h
  rw [← hseat, seat_of_assignmentOf hb]

lemma Mirrors.seats_eq (h : Mirrors m contextId db) :
    seats (db.rows Table.stageAssignments) = m.assignments.map (·.seat.labels) := by
  have hlabels := h.assignments.imp fun _ _ hrow => seatLabels_of_isRowOf hrow
  rw [← List.forall₂_map_right_iff, ← List.forall₂_map_left_iff, List.forall₂_eq_eq_eq] at hlabels
  exact hlabels.symm

lemma Mirrors.mem_seats_iff (h : Mirrors m contextId db) {x : Seat} :
    x.labels ∈ seats (db.rows Table.stageAssignments) ↔ ∃ a ∈ m.assignments, a.seat = x := by
  rw [h.seats_eq, List.mem_map]
  constructor
  · rintro ⟨a, ha, hlabels⟩
    exact ⟨a, ha, Seat.labels_injective hlabels⟩
  · rintro ⟨a, ha, rfl⟩
    exact ⟨a, ha, rfl⟩

lemma Mirrors.sound (h : Mirrors m contextId db) : db.Sound where
  toPlain := h.toPlain
  roles row hrow := by
    rw [h.groups] at hrow
    obtain ⟨r, -, rfl⟩ := List.mem_map.1 hrow
    exact ⟨r.group.role, roleOf_eq rfl⟩
  assignments := by
    have hassignments := h.assignments
    generalize db.rows Table.stageAssignments = rows at hassignments ⊢
    generalize m.assignments = as at hassignments
    induction hassignments with
    | nil => exact fun _ hrow => absurd hrow List.not_mem_nil
    | cons hrow _ ih =>
      obtain ⟨b, hb, -⟩ := hrow
      exact List.forall_mem_cons.2 ⟨⟨b, hb⟩, ih⟩

/-! ## Groups -/

lemma Mirrors.groupRows_eq (h : Mirrors m contextId db) (hm : m.Orderly) (ids : List String)
    (c : Value) : db.groupRows ids c =
      (m.rosters.filter fun r => ids.contains r.group.id &&
        (c == .null || r.group.contextId == c.label)).map fun r => groupRow r.group := by
  have hsorted : (db.rows Table.userGroups).Pairwise (RowLe ["id"]) := by
    rw [h.groups, List.pairwise_map]
    refine (List.pairwise_map.1 hm.groups).imp fun {r r'} hlt => notAfter_cons.2 (.inl ?_)
    exact lt_of_eq_of_lt (Value.labelOrEmpty_text _)
      (lt_of_lt_of_eq hlt (Value.labelOrEmpty_text _).symm)
  unfold groupRows
  dsimp only
  rw [found, arrange_eq_insertionSort, (hsorted.filter _).insertionSort_eq, h.groups,
    List.filter_filter, List.filter_map]
  refine congrArg (List.map _) (List.filter_congr fun r hr => ?_)
  have hpresent : ((groupRow r.group).get "id").isPresent = true := by
    have hid : (groupRow r.group).get "id" = .text r.group.id := rfl
    simpa [hid, Value.isPresent] using (hm.names r hr).1
  have hid : (groupRow r.group).label "id" = r.group.id := rfl
  have hcontext : (groupRow r.group).label "context_id" = r.group.contextId := rfl
  by_cases hc : c = .null
  · simp [hc, hpresent, meets, Filter.admits, hid]
  · have hne : (c == Value.null) = false := by simpa using hc
    simp [hne, hpresent, meets, Filter.admits, hid, hcontext]

lemma Mirrors.stagesFor_eq (h : Mirrors m contextId db) (hm : m.Orderly) {ids : List String}
    (hr : r ∈ m.rosters) (hid : r.group.id ∈ ids) :
    stagesFor (db.grants ids) r.group.id = r.group.stages := by
  have hgrant : ∀ g stage, stageGrant? (stageRow g stage) = some (g.id, stage) := by
    intro g stage
    have hstage : (stageRow g stage).get "stage_id" = .int stage.code := rfl
    have hgroup : (stageRow g stage).labelOrEmpty "user_group_id" = g.id :=
      Value.labelOrEmpty_text g.id
    rw [stageGrant?, hstage, Stage.ofValue?_code, hgroup]
    rfl
  refine (Stage.gather_congr fun stage => ?_).trans (hm.stages r hr)
  rw [List.mem_map]
  constructor
  · rintro ⟨⟨id, stage'⟩, hmem, rfl⟩
    obtain ⟨hmem, hkey⟩ := List.mem_filter.1 hmem
    obtain rfl : id = r.group.id := by simpa using hkey
    obtain ⟨row, hrow, hread⟩ := List.mem_filterMap.1 hmem
    have hrow := (mem_found.1 hrow).1
    rw [h.stages] at hrow
    obtain ⟨r', hr', hrow⟩ := List.mem_flatMap.1 hrow
    obtain ⟨stage, hstage, rfl⟩ := List.mem_map.1 hrow
    obtain ⟨hid', rfl⟩ := Prod.mk.inj (Option.some.inj ((hgrant _ _).symm.trans hread))
    rw [← hm.roster_unique hr' hr hid']
    exact hstage
  · intro hstage
    refine ⟨(r.group.id, stage), List.mem_filter.2 ⟨List.mem_filterMap.2
      ⟨stageRow r.group stage, mem_found.2 ⟨?_, ?_⟩, hgrant _ _⟩, by simp⟩, rfl⟩
    · rw [h.stages]
      exact List.mem_flatMap.2 ⟨r, hr, List.mem_map.2 ⟨stage, hstage, rfl⟩⟩
    · rw [meets_cons, admits_among]
      exact ⟨hid, rfl⟩

lemma Mirrors.groupsAmong_eq (h : Mirrors m contextId db) (hm : m.Orderly) (ids : List String)
    (c : Value) : db.groupsAmong ids c =
      (m.rosters.filter fun r => ids.contains r.group.id &&
        (c == .null || r.group.contextId == c.label)).map (·.group) := by
  unfold Database.groupsAmong
  dsimp only
  rw [h.groupRows_eq hm, List.filterMap_map, List.filterMap_eq_map_iff_forall_eq_some]
  intro r hr
  have hmem : r ∈ m.rosters := (List.mem_filter.1 hr).1
  have hid : r.group.id ∈ ((m.rosters.filter fun r => ids.contains r.group.id &&
      (c == .null || r.group.contextId == c.label)).map fun r => groupRow r.group).map
        (·.label "id") := List.mem_map_of_mem (List.mem_map_of_mem hr)
  have hcontext : (groupRow r.group).labelOrEmpty "context_id" = r.group.contextId :=
    Value.labelOrEmpty_text _
  have hname : (groupRow r.group).labelOrEmpty "name" = r.group.name := Value.labelOrEmpty_text _
  have hlabel : (groupRow r.group).label "id" = r.group.id := rfl
  have hrole : roleOf (groupRow r.group) = .ok r.group.role := roleOf_eq rfl
  rw [Function.comp_apply, groupOf_eq hrole, hlabel, hcontext, hname, h.stagesFor_eq hm hmem hid]
  rfl

lemma isIn_text_iff {c : String} {g : UserGroup} :
    Memory.isIn (.text c) g = true ↔ g.contextId = c := by
  rw [Memory.isIn, beq_iff_eq, Value.text.injEq, eq_comm]

/-- The groups of a context that are looked up by identities, where these tell what is asked of
a group. -/
lemma Mirrors.groupsAmong_text (h : Mirrors m contextId db) (hm : m.Orderly) {ids : List String}
    {c : String} {p : Roster → Bool}
    (hids : ∀ r ∈ m.rosters, r.group.contextId = c → (r.group.id ∈ ids ↔ p r = true)) :
    db.groupsAmong ids (.text c) =
      (m.rosters.filter fun r => Memory.isIn (.text c) r.group && p r).map (·.group) := by
  rw [h.groupsAmong_eq hm]
  refine congrArg (List.map _) (List.filter_congr fun r hr => ?_)
  have hnull : Value.text c ≠ .null := Value.noConfusion
  rw [Bool.eq_iff_iff, Bool.and_eq_true, Bool.and_eq_true, Bool.or_eq_true, List.contains_iff_mem,
    beq_iff_eq, beq_iff_eq, Value.label_text, isIn_text_iff]
  constructor
  · rintro ⟨hid, hc⟩
    have hcontext := hc.resolve_left hnull
    exact ⟨hcontext, (hids r hr hcontext).1 hid⟩
  · rintro ⟨hcontext, hr'⟩
    exact ⟨(hids r hr hcontext).2 hr', .inr hcontext⟩

lemma Mirrors.mem_openIds (h : Mirrors m contextId db) (hm : m.Orderly) (hr : r ∈ m.rosters)
    (stage : Stage) : r.group.id ∈ presentLabels "user_group_id" (db.found Table.userGroupStages
      [.equals "context_id" r.group.contextId, .equals "stage_id" (toString stage.code)] []) ↔
        r.group.permits stage = true := by
  have hrows : ∀ {row : Row}, row ∈ db.rows Table.userGroupStages →
      ∃ r' ∈ m.rosters, ∃ stage' ∈ r'.group.stages, row = stageRow r'.group stage' := by
    intro row hrow
    rw [h.stages] at hrow
    obtain ⟨r', hr', hrow⟩ := List.mem_flatMap.1 hrow
    obtain ⟨stage', hstage', rfl⟩ := List.mem_map.1 hrow
    exact ⟨r', hr', stage', hstage', rfl⟩
  have hnames : ∀ row ∈ db.found Table.userGroupStages [.equals "context_id" r.group.contextId,
      .equals "stage_id" (toString stage.code)] [], (row.get "user_group_id").Names := by
    intro row hrow
    obtain ⟨r', hr', stage', -, rfl⟩ := hrows (mem_found.1 hrow).1
    exact ⟨_, rfl, (hm.names r' hr').1⟩
  rw [mem_presentLabels hnames, UserGroup.permits, List.contains_iff_mem]
  constructor
  · rintro ⟨row, hrow, hid⟩
    obtain ⟨hmem, hmeets⟩ := mem_found.1 hrow
    obtain ⟨r', hr', stage', hstage', rfl⟩ := hrows hmem
    obtain rfl := hm.roster_unique hr' hr (Value.text.inj hid)
    simp only [meets_cons, meets_nil, admits_equals, and_true] at hmeets
    have hcode : stage'.code = stage.code := (label_int_eq_iff rfl).1 hmeets.2
    have hsame : stage' = stage := by
      rw [← Option.some_inj, ← Stage.ofCode?_code, ← Stage.ofCode?_code, hcode]
    exact hsame ▸ hstage'
  · intro hstage
    refine ⟨stageRow r.group stage, mem_found.2 ⟨?_, ?_⟩, rfl⟩
    · rw [h.stages]
      exact List.mem_flatMap.2 ⟨r, hr, List.mem_map.2 ⟨stage, hstage, rfl⟩⟩
    · simp only [meets_cons, meets_nil, admits_equals, and_true]
      exact ⟨rfl, (label_int_eq_iff rfl).2 rfl⟩

/-- The groups that are open at a stage. -/
theorem Mirrors.groupsForStage_eq (h : Mirrors m contextId db) (hm : m.Orderly) (c : String)
    (stage : Stage) :
    db.groupsForStage (.text c) stage = m.groupsForStage (.text c) stage := by
  unfold Database.groupsForStage Memory.groupsForStage
  rw [h.groupsAmong_text hm (p := fun r => r.group.permits stage), List.filter_map]
  · rfl
  · rintro r hr rfl
    exact h.mem_openIds hm hr stage

theorem Mirrors.group?_eq (h : Mirrors m contextId db) (hm : m.Orderly) (id : String) :
    db.group? (.text id) = (m.roster? (.text id)).map (·.group) := by
  unfold Database.group? Memory.roster?
  rw [h.groupsAmong_eq hm, List.head?_map, List.head?_filter]
  refine congrArg (Option.map _) (congrArg (List.find? · m.rosters) (funext fun r => ?_))
  rw [beq_self_eq_true, Bool.true_or, Bool.and_true, Bool.eq_iff_iff, List.contains_iff_mem,
    List.mem_singleton, beq_iff_eq, Value.text.injEq, eq_comm]
  rfl

/-! ## Members, sub-editors and managers -/

lemma Mirrors.mem_memberships (h : Mirrors m contextId db) (hm : m.Orderly) {row : Row} :
    row ∈ db.rows Table.memberships ↔
      ∃ r ∈ m.rosters, ∃ name, .text name ∈ r.members ∧ row = memberRow r.group (.text name) := by
  rw [h.memberships, List.mem_flatMap]
  constructor
  · rintro ⟨r, hr, hrow⟩
    obtain ⟨userId, huser, rfl⟩ := List.mem_map.1 hrow
    obtain ⟨name, rfl⟩ := (hm.members r hr).exists_text huser
    exact ⟨r, hr, name, huser, rfl⟩
  · rintro ⟨r, hr, name, huser, rfl⟩
    exact ⟨r, hr, List.mem_map_of_mem huser⟩

theorem Mirrors.groupsForUser_eq (h : Mirrors m contextId db) (hm : m.Orderly)
    (userId c : String) :
    db.groupsForUser (.text userId) (.text c) = m.groupsForUser (.text userId) (.text c) := by
  unfold Database.groupsForUser Memory.groupsForUser
  refine h.groupsAmong_text hm fun r hr _ => ?_
  have hnames : ∀ row ∈ db.found Table.memberships [.equals "user_id" (Value.text userId).label] [],
      (row.get "user_group_id").Names := by
    intro row hrow
    obtain ⟨r', hr', name, -, rfl⟩ := (h.mem_memberships hm).1 (mem_found.1 hrow).1
    exact ⟨_, rfl, (hm.names r' hr').1⟩
  rw [mem_presentLabels hnames, List.any_eq_true]
  constructor
  · rintro ⟨row, hrow, hid⟩
    obtain ⟨hmem, hmeets⟩ := mem_found.1 hrow
    obtain ⟨r', hr', name, hname, rfl⟩ := (h.mem_memberships hm).1 hmem
    obtain rfl := hm.roster_unique hr' hr (Value.text.inj hid)
    simp only [meets_cons, meets_nil, admits_equals, and_true] at hmeets
    exact ⟨_, hname, by rw [Value.alike_text]; exact beq_iff_eq.2 hmeets⟩
  · rintro ⟨v, hv, halike⟩
    obtain ⟨name, rfl⟩ := (hm.members r hr).exists_text hv
    obtain rfl : name = userId := by simpa using halike
    refine ⟨memberRow r.group (.text name),
      mem_found.2 ⟨(h.mem_memberships hm).2 ⟨r, hr, name, hv, rfl⟩, ?_⟩, rfl⟩
    simp only [meets_cons, meets_nil, admits_equals, and_true]
    rfl

/-- A look-up of users finds an ascending list if it finds the same users. -/
lemma users_found_eq {table : String} {filters : List Filter} {names : List String}
    (hnames : names.Pairwise (· < ·))
    (hmem : ∀ name, name ∈ users (db.found table filters ["user_id"]) ↔ name ∈ names) :
    users (db.found table filters ["user_id"]) = names :=
  (pairwise_users db table filters).eq_of_mem_iff hnames fun {name} => hmem name

/-- The members that are found by some conditions on their rows. -/
lemma Mirrors.mem_users_found (h : Mirrors m contextId db) (hm : m.Orderly)
    {filters : List Filter} {name : String} :
    name ∈ users (db.found Table.memberships filters ["user_id"]) ↔
      ∃ r ∈ m.rosters, .text name ∈ r.members ∧
        meets filters (memberRow r.group (.text name)) = true := by
  rw [mem_users_of_names fun row hrow => ?_]
  · constructor
    · rintro ⟨row, hrow, hname⟩
      obtain ⟨hmem, hmeets⟩ := mem_found.1 hrow
      obtain ⟨r, hr, name', hmember, rfl⟩ := (h.mem_memberships hm).1 hmem
      obtain rfl : name' = name := Value.text.inj hname
      exact ⟨r, hr, hmember, hmeets⟩
    · rintro ⟨r, hr, hmember, hmeets⟩
      exact ⟨_, mem_found.2 ⟨(h.mem_memberships hm).2 ⟨r, hr, name, hmember, rfl⟩, hmeets⟩, rfl⟩
  · obtain ⟨r, hr, name, hmember, rfl⟩ := (h.mem_memberships hm).1 (mem_found.1 hrow).1
    exact ⟨name, rfl, (hm.members r hr).ne_empty hmember⟩

lemma mem_roster? {id : String} (hr : m.roster? (.text id) = some r) :
    r ∈ m.rosters ∧ r.group.id = id := by
  unfold Memory.roster? at hr
  have hid := List.find?_some hr
  exact ⟨List.mem_of_find?_eq_some hr, (Value.text.inj (beq_iff_eq.1 hid)).symm⟩

theorem Mirrors.members_eq (h : Mirrors m contextId db) (hm : m.Orderly) (id c : String) :
    m.members (.text id) (.text c) = .ok ((db.members (.text id) (.text c)).map .text) := by
  unfold Memory.members Database.members
  rw [Fault.named_text, h.group?_eq hm]
  dsimp only [bind, Except.bind]
  cases hroster : m.roster? (.text id) with
  | none => rfl
  | some r =>
    obtain ⟨hr, rfl⟩ := mem_roster? hroster
    dsimp only [Option.map_some]
    have hlabel : (r.group.contextId == (Value.text c).label) = true ↔ r.group.contextId = c :=
      beq_iff_eq
    by_cases hcontext : r.group.contextId = c
    · rw [if_pos (isIn_text_iff.2 hcontext), if_pos (hlabel.2 hcontext)]
      obtain ⟨names, hmembers, hsorted, -⟩ := hm.members r hr
      rw [users_found_eq hsorted fun name => ?_, hmembers]
      · rfl
      rw [h.mem_users_found hm]
      simp only [meets_cons, meets_nil, admits_equals, and_true]
      constructor
      · rintro ⟨r', hr', hmember, hid⟩
        rw [hm.roster_unique hr' hr hid, hmembers] at hmember
        obtain ⟨name', hname, he⟩ := List.mem_map.1 hmember
        exact Value.text.inj he ▸ hname
      · intro hname
        exact ⟨r, hr, hmembers ▸ List.mem_map_of_mem hname, rfl⟩
    · rw [if_neg (mt isIn_text_iff.1 hcontext), if_neg (mt hlabel.1 hcontext)]
      rfl

lemma mem_boundTo {type : GroupingType} {id : String} {v : Value} :
    v ∈ m.boundTo type id ↔ ∃ b ∈ m.bindings, b.grouping = ⟨type, .text id⟩ ∧ b.userId = v := by
  unfold Memory.boundTo
  rw [List.mem_map]
  simp only [List.mem_filter, beq_iff_eq, and_assoc]

lemma Mirrors.mem_subEditors (h : Mirrors m contextId db) (hm : m.Orderly) {type : GroupingType}
    {id name : String} :
    name ∈ db.subEditors ⟨type, .text id⟩ (.text contextId) ↔ .text name ∈ m.boundTo type id := by
  have hrows : ∀ {row : Row}, row ∈ db.found Table.subEditors [.equals "context_id" contextId,
      .equals "assoc_type" type.word, .equals "assoc_id" id] ["user_id"] ↔
        ∃ b ∈ m.bindings, b.grouping = ⟨type, .text id⟩ ∧ row = bindingRow contextId b := by
    intro row
    rw [mem_found, h.subEditors, List.mem_map]
    constructor
    · rintro ⟨⟨⟨⟨t, v⟩, userId⟩, hb, rfl⟩, hmeets⟩
      obtain ⟨id', rfl, -⟩ := hm.groupings _ hb
      simp only [meets_cons, meets_nil, admits_equals, and_true] at hmeets
      have htype : t = type := by
        have hword : t.word = type.word := hmeets.2.1
        rw [← Option.some_inj, ← GroupingType.ofWord?_word, ← GroupingType.ofWord?_word, hword]
      have hid : id' = id := hmeets.2.2
      exact ⟨_, hb, by rw [htype, hid], rfl⟩
    · rintro ⟨⟨g, userId⟩, hb, rfl, rfl⟩
      refine ⟨⟨_, hb, rfl⟩, ?_⟩
      simp only [meets_cons, meets_nil, admits_equals, and_true]
      exact ⟨rfl, rfl, rfl⟩
  have husers := hm.bindings type id
  unfold Database.subEditors
  rw [mem_boundTo, mem_users_of_names fun row hrow => ?_]
  · constructor
    · rintro ⟨row, hrow, huser⟩
      obtain ⟨b, hb, hgrouping, rfl⟩ := hrows.1 hrow
      exact ⟨b, hb, hgrouping, huser⟩
    · rintro ⟨b, hb, hgrouping, huser⟩
      exact ⟨_, hrows.2 ⟨b, hb, hgrouping, rfl⟩, huser⟩
  · obtain ⟨b, hb, hgrouping, rfl⟩ := hrows.1 hrow
    have hbound : b.userId ∈ m.boundTo type id := mem_boundTo.2 ⟨b, hb, hgrouping, rfl⟩
    obtain ⟨name, hname⟩ := husers.exists_text hbound
    exact ⟨name, hname, husers.ne_empty (hname ▸ hbound)⟩

/-- The users who are bound to a section or a category, in the context of the mirror. -/
theorem Mirrors.subEditors_eq (h : Mirrors m contextId db) (hm : m.Orderly) (type : GroupingType)
    (id : String) : m.subEditors ⟨type, .text id⟩ =
      .ok ((db.subEditors ⟨type, .text id⟩ (.text contextId)).map .text) := by
  have hbound : (m.bindings.filter fun b => b.grouping.type == type &&
      b.grouping.id.alike (.text id)).map (·.userId) = m.boundTo type id := by
    refine congrArg (List.map _) (List.filter_congr fun b hb => ?_)
    obtain ⟨⟨t, v⟩, userId⟩ := b
    obtain ⟨id', rfl, -⟩ := hm.groupings _ hb
    rw [Value.alike_text, Bool.eq_iff_iff, Bool.and_eq_true, beq_iff_eq, beq_iff_eq, beq_iff_eq,
      Grouping.mk.injEq, Value.text.injEq]
  obtain ⟨names, hnames, hsorted, -⟩ := hm.bindings type id
  have hsame : db.subEditors ⟨type, .text id⟩ (.text contextId) = names := by
    refine users_found_eq hsorted fun name => ?_
    refine (h.mem_subEditors hm).trans ?_
    rw [hnames]
    simp
  unfold Memory.subEditors
  rw [hsame, ← hnames, ← hbound]
  rfl

lemma Mirrors.mem_managerIds (h : Mirrors m contextId db) (hm : m.Orderly) (hr : r ∈ m.rosters)
    {c : String} : r.group.id ∈ presentLabels "id" (db.found Table.userGroups
      [.equals "context_id" c, .equals "role_id" (toString Role.manager.code)] []) ↔
        r.group.contextId = c ∧ r.group.role = .manager := by
  have hrows : ∀ {row : Row}, row ∈ db.rows Table.userGroups →
      ∃ r' ∈ m.rosters, row = groupRow r'.group := by
    intro row hrow
    rw [h.groups] at hrow
    obtain ⟨r', hr', rfl⟩ := List.mem_map.1 hrow
    exact ⟨r', hr', rfl⟩
  rw [mem_presentLabels fun row hrow => ?_]
  · constructor
    · rintro ⟨row, hrow, hid⟩
      obtain ⟨hmem, hmeets⟩ := mem_found.1 hrow
      obtain ⟨r', hr', rfl⟩ := hrows hmem
      obtain rfl := hm.roster_unique hr' hr (Value.text.inj hid)
      simp only [meets_cons, meets_nil, admits_equals, and_true] at hmeets
      have hcode : r'.group.role.code = Role.manager.code := (label_int_eq_iff rfl).1 hmeets.2
      have hrole : r'.group.role = .manager := by
        rw [← Option.some_inj, ← Role.ofCode?_code, ← Role.ofCode?_code, hcode]
      exact ⟨hmeets.1, hrole⟩
    · rintro ⟨hcontext, hrole⟩
      refine ⟨groupRow r.group, mem_found.2 ⟨?_, ?_⟩, rfl⟩
      · rw [h.groups]
        exact List.mem_map_of_mem hr
      · simp only [meets_cons, meets_nil, admits_equals, and_true]
        exact ⟨hcontext, (label_int_eq_iff rfl).2 (congrArg Role.code hrole)⟩
  · obtain ⟨r', hr', rfl⟩ := hrows (mem_found.1 hrow).1
    exact ⟨_, rfl, (hm.names r' hr').1⟩

/-- The managers of a context: the same users, in an order of their own. -/
theorem Mirrors.managers_perm (h : Mirrors m contextId db) (hm : m.Orderly) (c : String) :
    ∃ names : List String, m.managers (.text c) = .ok (names.map .text) ∧
      names.Perm (db.managers (.text c)) := by
  have htexts : (m.rosters.filter fun r => Memory.isIn (.text c) r.group &&
      r.group.role == .manager).flatMap (·.members) ∈ Set.range (List.map Value.text) := by
    rw [Set.range_list_map]
    intro v hv
    obtain ⟨r, hr, hmember⟩ := List.mem_flatMap.1 hv
    obtain ⟨name, rfl⟩ := (hm.members r (List.mem_filter.1 hr).1).exists_text hmember
    exact ⟨name, rfl⟩
  obtain ⟨names, hnames⟩ := htexts
  have hmem : ∀ name, name ∈ names ↔ ∃ r ∈ m.rosters, (r.group.contextId = c ∧
      r.group.role = .manager) ∧ .text name ∈ r.members := by
    intro name
    have hlisted : name ∈ names ↔ .text name ∈ names.map Value.text := by simp
    rw [hlisted, hnames, List.mem_flatMap]
    simp only [List.mem_filter, Bool.and_eq_true, isIn_text_iff, beq_iff_eq, and_assoc]
  refine ⟨distinct names, ?_, ?_⟩
  · unfold Memory.managers
    rw [← hnames, distinctNames_text]
  · refine (List.perm_ext_iff_of_nodup (nodup_distinct _) (nodup_users _)).2 fun name => ?_
    rw [mem_distinct, hmem, h.mem_users_found hm]
    refine exists_congr fun r => and_congr_right fun hr => ?_
    rw [meets_cons, admits_among, and_comm (a := .text name ∈ r.members),
      ← h.mem_managerIds hm hr]
    exact and_congr_left fun _ => (and_iff_left (meets_nil _)).symm

/-- A store with two groups of managers. -/
def board : Memory :=
  { Memory.empty with rosters := [
    ⟨⟨"g-1", "ctx-1", .manager, "", false, []⟩, [.text "u-2", .text "u-3"]⟩,
    ⟨⟨"g-2", "ctx-1", .manager, "", false, []⟩, [.text "u-1", .text "u-2"]⟩] }

example : board.managers (.text "ctx-1") = .ok [.text "u-2", .text "u-3", .text "u-1"] := rfl

example : (board.mirror "ctx-1").managers (.text "ctx-1") = ["u-1", "u-2", "u-3"] := by decide

end Store
end EditorialDesk
