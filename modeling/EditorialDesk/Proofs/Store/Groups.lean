import EditorialDesk.Proofs.Database.Arrangement
import EditorialDesk.Proofs.Store.Directory
import Std.Data.String.ToInt

/-!
# Groups with identities of their own

Where the groups have names that no two share, and roles, the look-ups of groups find each
group as it is in itself: its row and the stages that are granted to it decide about it,
whatever other groups are asked for and in whatever way.
-/
namespace EditorialDesk

/-- A text that names something. -/
def Value.Names (v : Value) : Prop := ∃ s, v = .text s ∧ s ≠ ""

@[simp] theorem Value.labelOrEmpty_text (s : String) : Value.labelOrEmpty (.text s) = s := by
  by_cases h : s = "" <;> simp [labelOrEmpty, isPresent, h]

namespace Database

/-! ## Columns that hold names -/

lemma label_of_get {row : Row} {column text : String} (h : row.get column = .text text) :
    row.label column = text := by
  simp [Fields.label, h]

lemma label_eq_iff {row : Row} {column text : String} (h : (row.get column).Names) :
    row.label column = text ↔ row.get column = .text text := by
  obtain ⟨name, hname, -⟩ := h
  rw [label_of_get hname, hname]
  simp

lemma labelOrEmpty_of_names {row : Row} {column : String} (h : (row.get column).Names) :
    row.labelOrEmpty column = row.label column := by
  obtain ⟨name, hname, hne⟩ := h
  simp [Fields.labelOrEmpty, Fields.label, hname, Value.labelOrEmpty, Value.isPresent, hne]

lemma isPresent_of_names {v : Value} (h : v.Names) : v.isPresent = true := by
  obtain ⟨name, rfl, hne⟩ := h
  simpa [Value.isPresent] using hne

lemma label_ne_empty {row : Row} {column : String} (h : (row.get column).Names) :
    row.label column ≠ "" := by
  obtain ⟨name, hname, hne⟩ := h
  rwa [label_of_get hname]

lemma label_int_eq_iff {row : Row} {column : String} {n m : Int} (h : row.get column = .int n) :
    row.label column = toString m ↔ n = m := by
  have hlabel : row.label column = Int.repr n := by
    unfold Fields.label
    rw [h]
    rfl
  rw [hlabel]
  exact Int.repr_inj

lemma label_of_labelOrEmpty {row : Row} {column text : String}
    (h : row.labelOrEmpty column = text) (hne : text ≠ "") : row.label column = text := by
  unfold Fields.labelOrEmpty Value.labelOrEmpty at h
  split at h
  · exact h
  · exact absurd h.symm hne

lemma mem_presentLabels {column label : String} {rows : List Row}
    (h : ∀ row ∈ rows, (row.get column).Names) :
    label ∈ Store.presentLabels column rows ↔ ∃ row ∈ rows, row.get column = .text label := by
  unfold Store.presentLabels
  rw [List.mem_map]
  constructor
  · rintro ⟨row, hrow, hlabel⟩
    have hmem := (List.mem_filter.1 hrow).1
    exact ⟨row, hmem, (label_eq_iff (h row hmem)).1 hlabel⟩
  · rintro ⟨row, hrow, hget⟩
    exact ⟨row, List.mem_filter.2 ⟨hrow, isPresent_of_names (h row hrow)⟩, label_of_get hget⟩

/-- A look-up in the order of a column finds its texts in ascending order. -/
lemma pairwise_found (db : Database) (table : String) (filters : List Filter) (column : String) :
    (db.found table filters [column]).Pairwise
      fun row row' => row.labelOrEmpty column ≤ row'.labelOrEmpty column := by
  refine (pairwise_arrange [column] _).imp fun {row row'} h => ?_
  exact (notAfter_cons.1 h).elim le_of_lt fun h => le_of_eq h.1

/-! ## The stages of a group -/

/-- The stages at which a group is open in some context. -/
def stagesOf (db : Database) (groupId : String) : List Stage :=
  Store.stagesFor (db.grants [groupId]) groupId

/-- The group of a row, with a role. -/
def groupAt (db : Database) (role : Role) (row : Row) : UserGroup where
  id := row.label "id"
  contextId := row.labelOrEmpty "context_id"
  role := role
  name := row.labelOrEmpty "name"
  recommendOnly := (row.get "recommend_only").isPresent
  stages := db.stagesOf (row.label "id")

variable {db : Database} {row row' : Row} {role : Role} {ids : List String} {groupId : String}

/-- The stages of a group come from its rows among those that are looked up. -/
lemma mem_stagesFor {stage : Stage} : stage ∈ Store.stagesFor (db.grants ids) groupId ↔
    ∃ row ∈ db.rows Table.userGroupStages, row.label "user_group_id" ∈ ids ∧
      row.labelOrEmpty "user_group_id" = groupId ∧
        Stage.ofValue? (row.get "stage_id") = some stage := by
  have hgrant : ∀ {row : Row}, Store.stageGrant? row = some (groupId, stage) ↔
      row.labelOrEmpty "user_group_id" = groupId ∧
        Stage.ofValue? (row.get "stage_id") = some stage := by
    intro row
    unfold Store.stageGrant?
    cases Stage.ofValue? (row.get "stage_id") <;> simp [and_comm]
  have hlookup : ∀ {row : Row}, row ∈ db.found Table.userGroupStages [.among "user_group_id" ids] []
      ↔ row ∈ db.rows Table.userGroupStages ∧ row.label "user_group_id" ∈ ids := by
    intro row
    rw [mem_found]
    simp
  unfold Store.stagesFor grants
  rw [Stage.mem_gather, List.mem_map]
  constructor
  · rintro ⟨⟨id, stage⟩, hmem, rfl⟩
    obtain ⟨hgranted, hkey⟩ := List.mem_filter.1 hmem
    obtain rfl : id = groupId := by simpa using hkey
    obtain ⟨row, hfound, hrow⟩ := List.mem_filterMap.1 hgranted
    exact ⟨row, (hlookup.1 hfound).1, (hlookup.1 hfound).2, hgrant.1 hrow⟩
  · rintro ⟨row, hrow, hid, hrest⟩
    have hgranted := List.mem_filterMap.2 ⟨row, hlookup.2 ⟨hrow, hid⟩, hgrant.2 hrest⟩
    exact ⟨(groupId, stage), List.mem_filter.2 ⟨hgranted, by simp⟩, rfl⟩

lemma mem_stagesFor_of_mem {stage : Stage} (hid : groupId ∈ ids) (hne : groupId ≠ "") :
    stage ∈ Store.stagesFor (db.grants ids) groupId ↔
      ∃ row ∈ db.rows Table.userGroupStages, row.labelOrEmpty "user_group_id" = groupId ∧
        Stage.ofValue? (row.get "stage_id") = some stage := by
  rw [mem_stagesFor]
  constructor
  · rintro ⟨row, hrow, -, hrest⟩
    exact ⟨row, hrow, hrest⟩
  · rintro ⟨row, hrow, hgroup, hstage⟩
    exact ⟨row, hrow, label_of_labelOrEmpty hgroup hne ▸ hid, hgroup, hstage⟩

lemma stagesFor_eq (hid : groupId ∈ ids) (hne : groupId ≠ "") :
    Store.stagesFor (db.grants ids) groupId = db.stagesOf groupId := by
  have hmem : ∀ stage, stage ∈ Store.stagesFor (db.grants ids) groupId ↔
      stage ∈ db.stagesOf groupId := by
    intro stage
    rw [mem_stagesFor_of_mem hid hne, stagesOf,
      mem_stagesFor_of_mem (List.mem_singleton.2 rfl) hne]
  unfold stagesOf Store.stagesFor at hmem ⊢
  refine Stage.gather_congr fun stage => ?_
  simpa using hmem stage

lemma groupOf_eq (hrole : Store.roleOf row = .ok role) (granted : List (String × Stage)) :
    Store.groupOf granted row = .ok ⟨row.label "id", row.labelOrEmpty "context_id", role,
      row.labelOrEmpty "name", (row.get "recommend_only").isPresent,
      Store.stagesFor granted (row.label "id")⟩ := by
  unfold Store.groupOf
  rw [hrole]
  rfl

/-- The rows of a group give it as it is in itself. -/
lemma groupOf_grants (hrole : Store.roleOf row = .ok role) (hid : row.label "id" ∈ ids)
    (hne : row.label "id" ≠ "") :
    Store.groupOf (db.grants ids) row = .ok (db.groupAt role row) := by
  rw [groupOf_eq hrole, stagesFor_eq hid hne]
  rfl

/-! ## Groups among identities -/

/-- Every group has a name of its own and a role. -/
structure HasGroups (db : Database) : Prop where
  ids : ∀ row ∈ db.rows Table.userGroups, (row.get "id").Names
  nodup : ((db.rows Table.userGroups).map (·.get "id")).Nodup
  roles : ∀ row ∈ db.rows Table.userGroups, ∃ role, Store.roleOf row = .ok role

namespace HasGroups

lemma haveRoles (h : db.HasGroups) (ids : List String) (contextId : Value) :
    Store.HaveRoles db ids contextId :=
  fun row hrow => h.roles row (mem_groupRows.1 hrow).1

lemma group_unique (h : db.HasGroups) (hrow : row ∈ db.rows Table.userGroups)
    (hrow' : row' ∈ db.rows Table.userGroups) (hid : row.get "id" = row'.get "id") : row = row' :=
  List.inj_on_of_nodup_map h.nodup hrow hrow' hid

/-- The groups among some identities: those of a context, or all. -/
lemma mem_groupsAmong (h : db.HasGroups) {contextId : Value} {g : UserGroup} :
    g ∈ db.groupsAmong ids contextId ↔ ∃ row ∈ db.rows Table.userGroups, row.label "id" ∈ ids ∧
      (contextId = .null ∨ row.label "context_id" = contextId.label) ∧
        ∃ role, Store.roleOf row = .ok role ∧ g = db.groupAt role row := by
  have hids : ∀ row ∈ db.groupRows ids contextId,
      row.label "id" ∈ (db.groupRows ids contextId).map (·.label "id") :=
    fun row hrow => List.mem_map_of_mem hrow
  rw [Database.mem_groupsAmong]
  constructor
  · rintro ⟨row, hrow, hg⟩
    obtain ⟨hmem, hid, hcontext, -⟩ := mem_groupRows.1 hrow
    obtain ⟨role, hrole⟩ := h.roles row hmem
    rw [groupOf_grants hrole (hids row hrow) (label_ne_empty (h.ids row hmem))] at hg
    exact ⟨row, hmem, hid, hcontext, role, hrole, (Except.ok.inj hg).symm⟩
  · rintro ⟨row, hmem, hid, hcontext, role, hrole, rfl⟩
    have hnames := h.ids row hmem
    have hrow : row ∈ db.groupRows ids contextId :=
      mem_groupRows.2 ⟨hmem, hid, hcontext, isPresent_of_names hnames⟩
    exact ⟨row, hrow, groupOf_grants hrole (hids row hrow) (label_ne_empty hnames)⟩

lemma pairwise_groupsAmong (h : db.HasGroups) (ids : List String) (contextId : Value) :
    (db.groupsAmong ids contextId).Pairwise (·.id < ·.id) := by
  obtain ⟨filters, hsub⟩ : ∃ filters, (db.groupRows ids contextId).Sublist
      (db.found Table.userGroups filters ["id"]) := ⟨_, List.filter_sublist⟩
  have hle := (pairwise_found db Table.userGroups filters "id").sublist hsub
  have hnodup : ((db.found Table.userGroups filters ["id"]).map (·.get "id")).Nodup :=
    ((arrange_perm _ _).map _).nodup_iff.2 ((List.filter_sublist.map _).nodup h.nodup)
  have hne := List.pairwise_map.1 ((hsub.map (·.get "id")).nodup hnodup)
  unfold groupsAmong
  refine List.pairwise_filterMap.2 ((hle.and hne).imp_of_mem ?_)
  intro row row' hrow hrow' hboth g hg g' hg'
  have hnames : ∀ {r : Row}, r ∈ db.groupRows ids contextId → (r.get "id").Names :=
    fun hr => h.ids _ (mem_groupRows.1 hr).1
  rw [id_of_groupOf (toOption_eq_some_iff.1 hg), id_of_groupOf (toOption_eq_some_iff.1 hg')]
  rw [labelOrEmpty_of_names (hnames hrow), labelOrEmpty_of_names (hnames hrow')] at hboth
  refine lt_of_le_of_ne hboth.1 fun heq => hboth.2 ?_
  rw [(label_eq_iff (hnames hrow)).1 heq, (label_eq_iff (hnames hrow')).1 rfl]

lemma group?_eq (h : db.HasGroups) (hrow : row ∈ db.rows Table.userGroups)
    (hget : row.get "id" = .text groupId) (hrole : Store.roleOf row = .ok role) :
    db.group? (.text groupId) = some (db.groupAt role row) := by
  have hgroups : ∀ g, g ∈ db.groupsAmong [groupId] .null ↔ g = db.groupAt role row := by
    intro g
    rw [h.mem_groupsAmong]
    constructor
    · rintro ⟨row', hrow', hid, -, role', hrole', rfl⟩
      have hget' := (label_eq_iff (h.ids row' hrow')).1 (List.mem_singleton.1 hid)
      obtain rfl := h.group_unique hrow' hrow (hget'.trans hget.symm)
      rw [Except.ok.inj (hrole'.symm.trans hrole)]
    · rintro rfl
      exact ⟨row, hrow, List.mem_singleton.2 (label_of_get hget), .inl rfl, role, hrole, rfl⟩
  have hsome := (hgroups _).2 rfl
  unfold group?
  rw [Value.label_text]
  cases hlist : db.groupsAmong [groupId] .null with
  | nil =>
    rw [hlist] at hsome
    cases hsome
  | cons g rest =>
    rw [(hgroups g).1 (hlist ▸ List.mem_cons_self)]
    rfl

end HasGroups
end Database
end EditorialDesk
