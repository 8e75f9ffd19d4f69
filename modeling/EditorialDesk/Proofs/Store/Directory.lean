import EditorialDesk.Proofs.Database.History
import EditorialDesk.Proofs.Database.Lookup

/-!
# The directory as a function of the tables

The sessions of the directory look up rows of four tables that nothing in the intake
writes. In every later state of the database they hence read what stood there at first,
and that is computed here from the tables, without queries.
-/
namespace EditorialDesk

/-- A session that only reads, and what it reads in every state later than a first one. -/
def Session.Reads {α : Type} (base : Database) (p : Session α) (a : α) : Prop :=
  ∀ s, Database.Later base s →
    p.Meets Database.overlapping s fun b ds t => b = a ∧ ds = [] ∧ Database.Later s t

/-- What a session finds in the directory it reads in every later state. -/
lemma Session.Finds.reads {α : Type} {base : Database} {p : Session α} {a : α}
    (hp : p.Finds base Table.directory a) (hbase : base.Plain) : p.Reads base a := by
  intro s hs
  induction p generalizing s with
  | done b => exact ⟨hp, rfl, .refl s⟩
  | fault e => exact hp.elim
  | ask c next ih =>
    obtain ⟨hc, hnext⟩ := hp
    cases c with
    | insert | update | delete => exact hc.elim
    | select table filters order =>
      refine ⟨trivial, fun r ds t ⟨mid, hmid, hr, hds, ht⟩ => ?_⟩
      have hlater := hs.trans hmid
      have hrows : mid.found table filters order = base.found table filters order := by
        unfold Database.found
        rw [hlater.directory table hc]
      rw [(hlater.plain hbase).perform_select, hrows] at hr
      rw [(hlater.plain hbase).perform_select] at ht
      subst hr hds ht
      have hnote := Database.later_note mid (.select table filters order)
      refine (ih _ (hnext _ [] () ⟨rfl, rfl⟩) _ (hlater.trans hnote)).mono ?_
      rintro b es u ⟨hb, hes, hu⟩
      exact ⟨hb, hes, (hmid.trans hnote).trans hu⟩

/-- A check that every item of a list passes goes through the whole list. -/
lemma mapM_eq_ok {α β ε : Type} {f : α → Except ε β} {xs : List α}
    (h : ∀ x ∈ xs, ∃ y, f x = .ok y) :
    xs.mapM f = .ok (xs.filterMap fun x => (f x).toOption) := by
  induction xs with
  | nil => rfl
  | cons x rest ih =>
    obtain ⟨y, hy⟩ := h x List.mem_cons_self
    have hrest := ih fun z hz => h z (List.mem_cons_of_mem x hz)
    simp [List.mapM_cons, hy, hrest, bind, Except.bind, pure, Except.pure, Except.toOption]

namespace Database

variable {db : Database}

lemma found_of_among_nil (db : Database) (table : String) {column : String} {filters : List Filter}
    (h : .among column [] ∈ filters) (order : List String) : db.found table filters order = [] := by
  have hnone : (db.rows table).filter (meets filters) = [] := by
    rw [List.filter_eq_nil_iff]
    intro row _ hmeets
    have hadmits := List.all_eq_true.1 hmeets _ h
    simp [Filter.admits] at hadmits
  unfold found
  rw [hnone]
  rfl

lemma found_among_nil (db : Database) (table column : String) (filters : List Filter)
    (order : List String) : db.found table (.among column [] :: filters) order = [] :=
  found_of_among_nil db table List.mem_cons_self order

/-- The grants of stages to the given groups. -/
def grants (db : Database) (groupIds : List String) : List (String × Stage) :=
  (db.found Table.userGroupStages [.among "user_group_id" groupIds] []).filterMap
    Store.stageGrant?

/-- The rows of the groups of the given identities, in one context unless that is null. -/
def groupRows (db : Database) (ids : List String) (contextId : Value) : List Row :=
  let inContext := if contextId == .null then [] else [.equals "context_id" contextId.label]
  (db.found Table.userGroups (.among "id" ids :: inContext) ["id"]).filter
    fun r => (r.get "id").isPresent

lemma groupRows_nil (db : Database) (contextId : Value) : db.groupRows [] contextId = [] := by
  unfold groupRows
  dsimp only
  rw [found_among_nil]
  rfl

def groupsAmong (db : Database) (ids : List String) (contextId : Value) : List UserGroup :=
  let rows := db.groupRows ids contextId
  let granted := db.grants (rows.map (·.label "id"))
  rows.filterMap fun row => (Store.groupOf granted row).toOption

lemma mem_groupRows {ids : List String} {contextId : Value} {row : Row} :
    row ∈ db.groupRows ids contextId ↔ row ∈ db.rows Table.userGroups ∧ row.label "id" ∈ ids ∧
      (contextId = .null ∨ row.label "context_id" = contextId.label) ∧
        (row.get "id").isPresent = true := by
  unfold groupRows
  rw [List.mem_filter, mem_found, and_assoc]
  by_cases hnull : contextId = .null
  · simp [hnull, meets, Filter.admits]
  · have hne : (contextId == Value.null) = false := by simpa using hnull
    simp [hne, hnull, meets, Filter.admits, and_assoc]

lemma id_of_groupOf {granted : List (String × Stage)} {row : Row} {g : UserGroup}
    (h : Store.groupOf granted row = .ok g) : g.id = row.label "id" := by
  unfold Store.groupOf at h
  cases hrole : Store.roleOf row with
  | error fault => simp [hrole, bind, Except.bind] at h
  | ok role =>
    simp only [hrole, bind, Except.bind, pure, Except.pure, Except.ok.injEq] at h
    rw [← h]

lemma toOption_eq_some_iff {r : Except Fault UserGroup} {g : UserGroup} :
    r.toOption = some g ↔ r = .ok g := by
  cases r <;> simp [Except.toOption]

lemma mem_groupsAmong {ids : List String} {contextId : Value} {g : UserGroup} :
    g ∈ db.groupsAmong ids contextId ↔ ∃ row ∈ db.groupRows ids contextId,
      Store.groupOf (db.grants ((db.groupRows ids contextId).map (·.label "id"))) row = .ok g := by
  simp only [groupsAmong, List.mem_filterMap, toOption_eq_some_iff]

def groupsForStage (db : Database) (contextId : Value) (stage : Stage) : List UserGroup :=
  db.groupsAmong (Store.presentLabels "user_group_id" (db.found Table.userGroupStages
    [.equals "context_id" contextId.label, .equals "stage_id" (toString stage.code)] [])) contextId

def groupsForUser (db : Database) (userId contextId : Value) : List UserGroup :=
  db.groupsAmong (Store.presentLabels "user_group_id" (db.found Table.memberships
    [.equals "user_id" userId.label] [])) contextId

def group? (db : Database) (id : Value) : Option UserGroup :=
  (db.groupsAmong [id.label] .null).head?

lemma id_of_group? {id : Value} {g : UserGroup} (h : db.group? id = some g) : g.id = id.label := by
  obtain ⟨row, hrow, hg⟩ := mem_groupsAmong.1 (List.mem_of_mem_head? h)
  rw [id_of_groupOf hg]
  exact List.mem_singleton.1 (mem_groupRows.1 hrow).2.1

/-- The users that rows name, each once. -/
def users (rows : List Row) : List String :=
  distinct ((rows.map (·.labelOrEmpty "user_id")).filter (· != ""))

/-- The members of a group, if it is a group of the context. -/
def members (db : Database) (groupId contextId : Value) : List String :=
  match db.group? groupId with
  | none => []
  | some g =>
    if g.contextId == contextId.label then
      users (db.found Table.memberships [.equals "user_group_id" groupId.label] ["user_id"])
    else []

def subEditors (db : Database) (grouping : Grouping) (contextId : Value) : List String :=
  users (db.found Table.subEditors [.equals "context_id" contextId.label,
    .equals "assoc_type" grouping.type.word, .equals "assoc_id" grouping.id.label] ["user_id"])

/-- The members of the managers' groups of a context. -/
def managers (db : Database) (contextId : Value) : List String :=
  let ids := Store.presentLabels "id" (db.found Table.userGroups
    [.equals "context_id" contextId.label, .equals "role_id" (toString Role.manager.code)] [])
  users (db.found Table.memberships [.among "user_group_id" ids] ["user_id"])

end Database

namespace Store

open Database

variable {base : Database} {tables : List String}

/-- Every row that is found of some groups has a role. -/
def HaveRoles (base : Database) (ids : List String) (contextId : Value) : Prop :=
  ∀ row ∈ base.groupRows ids contextId, ∃ role, roleOf row = .ok role

lemma haveRoles_of_sound (hbase : base.Sound) (ids : List String) (contextId : Value) :
    HaveRoles base ids contextId :=
  fun row hrow => hbase.roles row (mem_groupRows.1 hrow).1

lemma finds_grants (hstages : Table.userGroupStages ∈ tables) (groupIds : List String) :
    (grants groupIds).Finds base tables (base.grants groupIds) := by
  unfold grants Database.grants
  cases groupIds with
  | nil =>
    rw [found_among_nil]
    exact Session.finds_pure
  | cons id rest => exact (Session.finds_lookup hstages _ _).bind Session.finds_pure

lemma groupOf_ok {row : Row} (hrow : ∃ role, roleOf row = .ok role)
    (granted : List (String × Stage)) : ∃ g, groupOf granted row = .ok g := by
  obtain ⟨role, hrole⟩ := hrow
  unfold groupOf
  rw [hrole]
  exact ⟨_, rfl⟩

/-- Of the rows of groups only those that are found have to give groups. -/
lemma finds_groupsAmong (hgroups : Table.userGroups ∈ tables)
    (hstages : Table.userGroupStages ∈ tables) {ids : List String} {contextId : Value}
    (hroles : HaveRoles base ids contextId) :
    (groupsAmong ids contextId).Finds base tables (base.groupsAmong ids contextId) := by
  unfold groupsAmong Database.groupsAmong
  cases ids with
  | nil =>
    rw [groupRows_nil]
    exact Session.finds_pure
  | cons id rest =>
    refine (Session.finds_lookup hgroups _ _).bind ?_
    exact (finds_grants hstages _).bind (Session.finds_ofExcept (mapM_eq_ok fun row hrow =>
      groupOf_ok (hroles row hrow) _))

/-- The identities of the groups that are open at a stage, as they are looked up. -/
abbrev openIds (base : Database) (contextId : Value) (stage : Stage) : List String :=
  presentLabels "user_group_id" (base.found Table.userGroupStages
    [.equals "context_id" contextId.label, .equals "stage_id" (toString stage.code)] [])

/-- The identities of the groups of a user, as they are looked up. -/
abbrev membershipIds (base : Database) (userId : Value) : List String :=
  presentLabels "user_group_id" (base.found Table.memberships [.equals "user_id" userId.label] [])

lemma finds_groupsForStage (hgroups : Table.userGroups ∈ tables)
    (hstages : Table.userGroupStages ∈ tables) {contextId : Value} {stage : Stage}
    (hroles : HaveRoles base (openIds base contextId stage) contextId) :
    (groupsForStage contextId stage).Finds base tables (base.groupsForStage contextId stage) :=
  (Session.finds_lookup hstages _ _).bind (finds_groupsAmong hgroups hstages hroles)

lemma finds_groupsForUser (hgroups : Table.userGroups ∈ tables)
    (hstages : Table.userGroupStages ∈ tables) (hmembers : Table.memberships ∈ tables)
    {userId contextId : Value} (hroles : HaveRoles base (membershipIds base userId) contextId) :
    (groupsForUser userId contextId).Finds base tables (base.groupsForUser userId contextId) :=
  (Session.finds_lookup hmembers _ _).bind (finds_groupsAmong hgroups hstages hroles)

lemma finds_group? (hgroups : Table.userGroups ∈ tables)
    (hstages : Table.userGroupStages ∈ tables) {id : Value} (hid : id.isName = true)
    (hroles : HaveRoles base [id.label] .null) :
    (group? id).Finds base tables (base.group? id) := by
  have hnamed : Fault.named id = .ok id := by simp [Fault.named, hid]
  unfold group? Database.group?
  refine (Session.finds_ofExcept hnamed).bind ?_
  exact (finds_groupsAmong hgroups hstages hroles).bind Session.finds_pure

/-! ### Reading in later states -/

lemma reads_groupsForStage (hbase : base.Plain) {contextId : Value} {stage : Stage}
    (hroles : HaveRoles base (openIds base contextId stage) contextId) :
    (groupsForStage contextId stage).Reads base (base.groupsForStage contextId stage) :=
  (finds_groupsForStage (by decide) (by decide) hroles).reads hbase

lemma reads_groupsForUser (hbase : base.Plain) {userId contextId : Value}
    (hroles : HaveRoles base (membershipIds base userId) contextId) :
    (groupsForUser userId contextId).Reads base (base.groupsForUser userId contextId) :=
  (finds_groupsForUser (by decide) (by decide) (by decide) hroles).reads hbase

lemma reads_group? (hbase : base.Plain) {id : Value} (hid : id.isName = true)
    (hroles : HaveRoles base [id.label] .null) :
    (group? id).Reads base (base.group? id) :=
  (finds_group? (by decide) (by decide) hid hroles).reads hbase

lemma reads_members (hbase : base.Plain) {groupId : Value} (hid : groupId.isName = true)
    (hroles : HaveRoles base [groupId.label] .null) (contextId : Value) :
    (members groupId contextId).Reads base ((base.members groupId contextId).map .text) := by
  refine Session.Finds.reads ?_ hbase
  unfold members Database.members
  refine (finds_group? (by decide) (by decide) hid hroles).bind ?_
  cases base.group? groupId with
  | none => exact Session.finds_pure
  | some g =>
    by_cases hg : g.contextId == contextId.label
    · simp only [hg, if_true]
      exact (Session.finds_lookup (by decide) _ _).bind Session.finds_pure
    · simp only [hg, if_false, Bool.false_eq_true, List.map_nil]
      exact Session.finds_pure

lemma reads_subEditors (hbase : base.Plain) (grouping : Grouping) (contextId : Value) :
    (subEditors grouping contextId).Reads base
      ((base.subEditors grouping contextId).map .text) := by
  refine Session.Finds.reads ?_ hbase
  exact (Session.finds_lookup (by decide) _ _).bind Session.finds_pure

lemma reads_managers (hbase : base.Plain) (contextId : Value) :
    (managers contextId).Reads base ((base.managers contextId).map .text) := by
  refine Session.Finds.reads ?_ hbase
  unfold managers Database.managers
  refine (Session.finds_lookup (by decide) _ _).bind ?_
  dsimp only
  generalize presentLabels "id" _ = ids
  cases ids with
  | nil =>
    rw [found_among_nil]
    exact Session.finds_pure
  | cons id rest => exact (Session.finds_lookup (by decide) _ _).bind Session.finds_pure

end Store
end EditorialDesk
