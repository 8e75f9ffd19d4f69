import EditorialDesk.Proofs.Store.Padded
import EditorialDesk.Proofs.Store.Scope
import EditorialDesk.Proofs.Store.Service

/-!
# Journals side by side

A directory may have rows of other contexts in between: groups under identities of their
own, with any roles, their stages and members, whoever these are, and sub-editors of other
contexts. A request that is about one context, and about none of these groups, is answered
as if they were not there, and changes the same.
-/
namespace EditorialDesk

open Database

namespace Database

/-- The second database has more rows in its directory, of other contexts than one. The groups among
them have fresh identities, and so have those that the rows for stages and members are of. -/
structure Neighboured (contextId : String) (fresh : String → Prop) (db db' : Database) :
    Prop where
  frame : ({ db with tables := db'.tables, calls := db'.calls } : Database) = db'
  groups : Store.Padded (fun row => fresh (row.label "id") ∧ row.label "context_id" ≠ contextId)
    (db.rows Table.userGroups) (db'.rows Table.userGroups)
  stages : Store.Padded (fun row => fresh (row.label "user_group_id"))
    (db.rows Table.userGroupStages) (db'.rows Table.userGroupStages)
  memberships : Store.Padded (fun row => fresh (row.label "user_group_id"))
    (db.rows Table.memberships) (db'.rows Table.memberships)
  subEditors : Store.Padded (fun row => row.label "context_id" ≠ contextId)
    (db.rows Table.subEditors) (db'.rows Table.subEditors)
  same : ∀ table ∉ Table.directory, db'.rows table = db.rows table

/-- No group has a fresh identity, and no assignment is through one that has. -/
structure Unused (fresh : String → Prop) (db : Database) : Prop where
  group : ∀ row ∈ db.rows Table.userGroups, ¬ fresh (row.label "id")
  assignment : ∀ row ∈ db.rows Table.stageAssignments, ¬ fresh (row.label "user_group_id")

/-- Two plain databases, of which the second has neighbours that the first does not know. -/
structure Beside (contextId : String) (fresh : String → Prop) (db db' : Database) : Prop
    extends Neighboured contextId fresh db db', Unused fresh db where
  plain : db.Plain
  roles : ∀ row ∈ db.rows Table.userGroups, ∃ role, Store.roleOf row = .ok role

namespace Beside

variable {contextId : String} {fresh : String → Prop} {db db' t t' : Database}

lemma plain' (h : Beside contextId fresh db db') : db'.Plain := h.plain.of_frame h.frame

/-! ## The directory -/

/-- What no more row meets is found alike. -/
lemma found_eq {extra : Row → Prop} {table : String} {filters : List Filter}
    (h : Store.Padded extra (db.rows table) (db'.rows table))
    {order : List String} (hextra : ∀ row, extra row → meets filters row = false) :
    db'.found table filters order = db.found table filters order := by
  unfold found
  rw [h.filter_eq hextra]

lemma grants_eq (h : Beside contextId fresh db db') {ids : List String}
    (hids : ∀ id ∈ ids, ¬ fresh id) : db'.grants ids = db.grants ids := by
  unfold grants
  rw [found_eq h.stages fun row hrow => ?_]
  rw [← Bool.not_eq_true, meets_cons, admits_among]
  exact fun hmeets => hids _ hmeets.1 hrow

/-- Groups of the context are found alike among identities that differ in fresh ones only. -/
lemma groupRows_eq (h : Beside contextId fresh db db') {ids ids' : List String}
    (hids : ∀ id, ¬ fresh id → (id ∈ ids' ↔ id ∈ ids)) :
    db'.groupRows ids' (.text contextId) = db.groupRows ids (.text contextId) := by
  have hnull : ((Value.text contextId) == .null) = false := rfl
  unfold groupRows
  simp only [hnull, Bool.false_eq_true, if_false]
  rw [found_eq h.groups fun row hrow => ?_]
  · unfold found
    congr 2
    refine List.filter_congr fun row hrow => ?_
    have hid := hids _ (h.group row hrow)
    rw [Bool.eq_iff_iff]
    simp only [meets_cons, admits_among, hid]
  · rw [← Bool.not_eq_true, meets_cons, meets_cons, admits_equals]
    exact fun hmeets => hrow.2 hmeets.2.1

lemma groupRows_singleton_eq (h : Beside contextId fresh db db') {id : String}
    (hid : ¬ fresh id) : db'.groupRows [id] .null = db.groupRows [id] .null := by
  have hnull : (Value.null == .null) = true := rfl
  unfold groupRows
  simp only [hnull, if_true]
  rw [found_eq h.groups fun row hrow => ?_]
  rw [← Bool.not_eq_true, meets_cons, admits_among, List.mem_singleton]
  rintro ⟨hmeets, -⟩
  exact hid (hmeets ▸ hrow.1)

/-- Rows that are found alike give the same groups. -/
lemma groupsAmong_eq (h : Beside contextId fresh db db') {ids ids' : List String} {context : Value}
    (hrows : db'.groupRows ids' context = db.groupRows ids context) :
    db'.groupsAmong ids' context = db.groupsAmong ids context := by
  unfold groupsAmong
  dsimp only
  rw [hrows, h.grants_eq fun id hid => ?_]
  obtain ⟨row, hrow, rfl⟩ := List.mem_map.1 hid
  exact h.group row (mem_groupRows.1 hrow).1

lemma haveRoles (h : Beside contextId fresh db db') (ids : List String) (context : Value) :
    Store.HaveRoles db ids context :=
  fun row hrow => h.roles row (mem_groupRows.1 hrow).1

lemma haveRoles' (h : Beside contextId fresh db db') {ids ids' : List String} {context : Value}
    (hrows : db'.groupRows ids' context = db.groupRows ids context) :
    Store.HaveRoles db' ids' context :=
  fun row hrow => h.haveRoles ids context row (hrows ▸ hrow)

lemma not_fresh_of_mem (h : Beside contextId fresh db db') {ids : List String} {context : Value}
    {g : UserGroup} (hg : g ∈ db.groupsAmong ids context) : ¬ fresh g.id := by
  obtain ⟨row, hrow, hgroup⟩ := mem_groupsAmong.1 hg
  rw [id_of_groupOf hgroup]
  exact h.group row (mem_groupRows.1 hrow).1

/-- Labels of a column are looked up alike, but for those of more rows. -/
lemma mem_presentLabels_iff {extra : Row → Prop} {table column id : String}
    {filters : List Filter} {order : List String}
    (h : Store.Padded extra (db.rows table) (db'.rows table))
    (hid : ∀ row, extra row → row.label column ≠ id) :
    id ∈ Store.presentLabels column (db'.found table filters order) ↔
      id ∈ Store.presentLabels column (db.found table filters order) := by
  have hmem : ∀ rows : Database, id ∈ Store.presentLabels column (rows.found table filters order) ↔
      ∃ row ∈ rows.rows table, meets filters row = true ∧
        (row.get column).isPresent = true ∧ row.label column = id := by
    intro rows
    simp only [Store.presentLabels, List.mem_map, List.mem_filter, mem_found, and_assoc]
  rw [hmem, hmem]
  constructor
  · rintro ⟨row, hrow, hmeets, hpresent, hlabel⟩
    have hown := (h.mem_or_extra hrow).resolve_right fun hextra => hid row hextra hlabel
    exact ⟨row, hown, hmeets, hpresent, hlabel⟩
  · rintro ⟨row, hrow, hrest⟩
    exact ⟨row, h.subset hrow, hrest⟩

lemma openRows_eq (h : Beside contextId fresh db db') (stage : Stage) :
    db'.groupRows (Store.openIds db' (.text contextId) stage) (.text contextId) =
      db.groupRows (Store.openIds db (.text contextId) stage) (.text contextId) :=
  h.groupRows_eq fun _ hid => mem_presentLabels_iff h.stages fun _ hrow hlabel =>
    hid (hlabel ▸ hrow)

lemma membershipRows_eq (h : Beside contextId fresh db db') (userId : Value) :
    db'.groupRows (Store.membershipIds db' userId) (.text contextId) =
      db.groupRows (Store.membershipIds db userId) (.text contextId) :=
  h.groupRows_eq fun _ hid => mem_presentLabels_iff h.memberships fun _ hrow hlabel =>
    hid (hlabel ▸ hrow)

lemma groupsForStage_eq (h : Beside contextId fresh db db') (stage : Stage) :
    db'.groupsForStage (.text contextId) stage = db.groupsForStage (.text contextId) stage :=
  h.groupsAmong_eq (h.openRows_eq stage)

lemma groupsForUser_eq (h : Beside contextId fresh db db') (userId : Value) :
    db'.groupsForUser userId (.text contextId) = db.groupsForUser userId (.text contextId) :=
  h.groupsAmong_eq (h.membershipRows_eq userId)

lemma group?_eq (h : Beside contextId fresh db db') {id : String} (hid : ¬ fresh id) :
    db'.group? (.text id) = db.group? (.text id) := by
  unfold group?
  rw [Value.label_text, h.groupsAmong_eq (h.groupRows_singleton_eq hid)]

lemma members_eq (h : Beside contextId fresh db db') {id : String} (hid : ¬ fresh id)
    (context : Value) : db'.members (.text id) context = db.members (.text id) context := by
  unfold members
  rw [h.group?_eq hid, Value.label_text, found_eq h.memberships fun row hrow => ?_]
  rw [← Bool.not_eq_true, meets_cons, admits_equals]
  exact fun hmeets => hid (hmeets.1 ▸ hrow)

lemma subEditors_eq (h : Beside contextId fresh db db') (grouping : Grouping) :
    db'.subEditors grouping (.text contextId) = db.subEditors grouping (.text contextId) := by
  unfold subEditors
  rw [found_eq h.subEditors fun row hrow => ?_]
  rw [← Bool.not_eq_true, meets_cons, admits_equals]
  exact fun hmeets => hrow hmeets.1

/-- Whoever else a manager of the context manages, their groups of the context are found alike. -/
lemma managers_eq (h : Beside contextId fresh db db') :
    db'.managers (.text contextId) = db.managers (.text contextId) := by
  have hgroups : ∀ filters, db'.found Table.userGroups
      (.equals "context_id" (Value.text contextId).label :: filters) [] =
        db.found Table.userGroups (.equals "context_id" (Value.text contextId).label :: filters)
          [] := by
    refine fun filters => found_eq h.groups fun row hrow => ?_
    rw [← Bool.not_eq_true, meets_cons, admits_equals]
    exact fun hmeets => hrow.2 hmeets.1
  unfold managers
  dsimp only
  rw [hgroups, found_eq h.memberships fun row hrow => ?_]
  rw [← Bool.not_eq_true, meets_cons, admits_among]
  rintro ⟨hmeets, -⟩
  obtain ⟨group, hgroup, hlabel⟩ := List.mem_map.1 hmeets
  refine h.group group (mem_found.1 (List.mem_filter.1 hgroup).1).1 ?_
  rwa [hlabel]

end Beside
end Database
end EditorialDesk
