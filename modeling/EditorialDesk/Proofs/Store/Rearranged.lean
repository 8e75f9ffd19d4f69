import EditorialDesk.Proofs.Store.Relations

/-!
# The order of rows

Two databases hold the same rows, but in some tables they hold them in another order. What
the rows say is the same in both, and so is what is found of the directory: groups and
users stand in an order that is told by their names.
-/
namespace EditorialDesk

/-- The tables of which only the rows matter, not their order. -/
def Table.unordered : List String := stageAssignments :: directory

namespace Database

/-- A second database differs from a first one in the order of rows only. -/
structure Rearranged (db db' : Database) : Prop where
  frame : ({ db with tables := db'.tables, calls := db'.calls } : Database) = db'
  perm : ∀ table ∈ Table.unordered, (db'.rows table).Perm (db.rows table)
  same : ∀ table ∉ Table.unordered, db'.rows table = db.rows table

namespace Rearranged

variable {db db' : Database}

lemma symm (h : Rearranged db db') : Rearranged db' db where
  frame := by rw [← h.frame]
  perm table ht := (h.perm table ht).symm
  same table ht := (h.same table ht).symm

lemma plain (h : Rearranged db db') (hdb : db.Plain) : db'.Plain := hdb.of_frame h.frame

lemma orphans (h : Rearranged db db') : db'.orphans = db.orphans := by rw [← h.frame]

lemma mem_iff (h : Rearranged db db') {table : String} (ht : table ∈ Table.unordered)
    {row : Row} : row ∈ db'.rows table ↔ row ∈ db.rows table :=
  (h.perm table ht).mem_iff

theorem wellFormed (h : Rearranged db db') (hdb : db.WellFormed) : db'.WellFormed where
  toPlain := h.plain hdb.toPlain
  groups row hrow := hdb.groups row ((h.mem_iff (by decide)).1 hrow)
  groupIds := ((h.perm Table.userGroups (by decide)).map _).nodup_iff.2 hdb.groupIds
  stages row hrow := hdb.stages row ((h.mem_iff (by decide)).1 hrow)
  memberships row hrow := hdb.memberships row ((h.mem_iff (by decide)).1 hrow)
  subEditors row hrow := hdb.subEditors row ((h.mem_iff (by decide)).1 hrow)
  assignees row hrow := hdb.assignees row ((h.mem_iff (by decide)).1 hrow)
  dates row hrow := hdb.dates row ((h.mem_iff (by decide)).1 hrow)

lemma isMember_iff (h : Rearranged db db') {groupId userId : String} :
    db'.IsMember groupId userId ↔ db.IsMember groupId userId := by
  simp only [IsMember, h.mem_iff (show Table.memberships ∈ Table.unordered by decide)]

lemma isOpen_iff (h : Rearranged db db') {contextId groupId : String} {stage : Stage} :
    db'.IsOpen contextId groupId stage ↔ db.IsOpen contextId groupId stage := by
  simp only [IsOpen, h.mem_iff (show Table.userGroupStages ∈ Table.unordered by decide)]

lemma isBound_iff (h : Rearranged db db') {contextId id userId : String} {type : GroupingType} :
    db'.IsBound contextId type id userId ↔ db.IsBound contextId type id userId := by
  simp only [IsBound, h.mem_iff (show Table.subEditors ∈ Table.unordered by decide)]

lemma isGroup_iff (h : Rearranged db db') {contextId groupId : String} {role : Role} {row : Row} :
    db'.IsGroup contextId groupId role row ↔ db.IsGroup contextId groupId role row := by
  simp only [IsGroup, h.mem_iff (show Table.userGroups ∈ Table.unordered by decide)]

lemma stagesOf_eq (h : Rearranged db db') (hdb : db.WellFormed) (groupId : String) :
    db'.stagesOf groupId = db.stagesOf groupId := by
  have hmem : ∀ stage, stage ∈ db'.stagesOf groupId ↔ stage ∈ db.stagesOf groupId := by
    intro stage
    unfold stagesOf
    rw [(h.wellFormed hdb).mem_stagesFor (List.mem_singleton.2 rfl),
      hdb.mem_stagesFor (List.mem_singleton.2 rfl)]
    simp only [h.mem_iff (show Table.userGroupStages ∈ Table.unordered by decide)]
  unfold stagesOf Store.stagesFor at hmem ⊢
  exact Stage.gather_congr fun stage => by simpa using hmem stage

lemma groupAt_eq (h : Rearranged db db') (hdb : db.WellFormed) (role : Role) (row : Row) :
    db'.groupAt role row = db.groupAt role row := by
  unfold groupAt
  rw [h.stagesOf_eq hdb]

/-- Groups that stand in the order of their identities stand there in one way only. -/
lemma eq_of_mem_groups {gs gs' : List UserGroup} (hgs : gs.Pairwise (·.id < ·.id))
    (hgs' : gs'.Pairwise (·.id < ·.id)) (hmem : ∀ g, g ∈ gs ↔ g ∈ gs') : gs = gs' := by
  have : Std.Irrefl fun g g' : UserGroup => g.id < g'.id := ⟨fun g => lt_irrefl g.id⟩
  have : Std.Antisymm fun g g' : UserGroup => g.id < g'.id :=
    ⟨fun _ _ hlt hgt => absurd hgt (lt_asymm hlt)⟩
  exact hgs.eq_of_mem_iff hgs' hmem

lemma groupsForStage_eq (h : Rearranged db db') (hdb : db.WellFormed) (contextId : String)
    (stage : Stage) :
    db'.groupsForStage (.text contextId) stage = db.groupsForStage (.text contextId) stage := by
  refine eq_of_mem_groups ((h.wellFormed hdb).pairwise_groupsForStage contextId stage)
    (hdb.pairwise_groupsForStage contextId stage) fun g => ?_
  rw [(h.wellFormed hdb).mem_groupsForStage, hdb.mem_groupsForStage]
  simp only [h.isGroup_iff, h.isOpen_iff, h.groupAt_eq hdb]

lemma groupsForUser_eq (h : Rearranged db db') (hdb : db.WellFormed) (userId contextId : String) :
    db'.groupsForUser (.text userId) (.text contextId) =
      db.groupsForUser (.text userId) (.text contextId) := by
  refine eq_of_mem_groups ((h.wellFormed hdb).hasGroups.pairwise_groupsAmong _ _)
    (hdb.hasGroups.pairwise_groupsAmong _ _) fun g => ?_
  rw [(h.wellFormed hdb).mem_groupsForUser, hdb.mem_groupsForUser]
  simp only [h.isGroup_iff, h.isMember_iff, h.groupAt_eq hdb]

lemma pairwise_members (db : Database) (groupId contextId : Value) :
    (db.members groupId contextId).Pairwise (· < ·) := by
  unfold members
  split
  · exact .nil
  · split
    · exact pairwise_users db _ _
    · exact .nil

lemma members_eq (h : Rearranged db db') (hdb : db.WellFormed) {contextId groupId : String}
    {role : Role} {row : Row} (hrow : db.IsGroup contextId groupId role row) :
    db'.members (.text groupId) (.text contextId) =
      db.members (.text groupId) (.text contextId) := by
  refine (pairwise_members db' _ _).eq_of_mem_iff (pairwise_members db _ _) fun userId => ?_
  rw [(h.wellFormed hdb).mem_members (h.isGroup_iff.2 hrow), hdb.mem_members hrow,
    h.isMember_iff]

lemma subEditors_eq (h : Rearranged db db') (hdb : db.WellFormed) (type : GroupingType)
    (id contextId : String) :
    db'.subEditors ⟨type, .text id⟩ (.text contextId) =
      db.subEditors ⟨type, .text id⟩ (.text contextId) := by
  refine (pairwise_users db' _ _).eq_of_mem_iff (pairwise_users db _ _) fun userId => ?_
  change userId ∈ db'.subEditors _ _ ↔ userId ∈ db.subEditors _ _
  rw [(h.wellFormed hdb).mem_subEditors, hdb.mem_subEditors, h.isBound_iff]

lemma managers_eq (h : Rearranged db db') (hdb : db.WellFormed) (contextId : String) :
    db'.managers (.text contextId) = db.managers (.text contextId) := by
  refine (pairwise_users db' _ _).eq_of_mem_iff (pairwise_users db _ _) fun userId => ?_
  change userId ∈ db'.managers _ ↔ userId ∈ db.managers _
  rw [(h.wellFormed hdb).mem_managers, hdb.mem_managers]
  simp only [h.isGroup_iff, h.isMember_iff]

end Rearranged

/-- The rows of one table are put into another order. -/
lemma rearranged_setRows (db : Database) {table : String} (ht : table ∈ Table.unordered)
    {rows : List Row} (hrows : rows.Perm (db.rows table)) :
    Rearranged db (db.setRows table rows) where
  frame := rfl
  perm other _ := by
    rw [rows_setRows]
    split
    · next heq =>
      rw [heq]
      exact hrows
    · exact .refl _
  same other hother := by
    have hne : other ≠ table := by
      rintro rfl
      exact hother ht
    rw [rows_setRows, if_neg hne]

end Database
end EditorialDesk
