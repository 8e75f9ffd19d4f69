import EditorialDesk.Proofs.Store.Groups
import EditorialDesk.Proofs.Text.Grammar

/-!
# Groups that are open at a stage

Two ways lead from a stage to groups. One looks up the grants by the texts of stage and
context; the other takes a group by its name, for itself or for one of its members, and
reads its stages from all its grants, in whatever context. Where each grant has the context
of its group and a number for its stage, both ways come to the same groups.
-/
namespace EditorialDesk

/-- A whole number, as it is or as a text. -/
def Value.Numbers (v : Value) : Prop := ∃ n : Int, v = .int n ∨ v = .text n.repr

namespace Database

/-- Every grant names a group and has a number for its stage. -/
structure HasStages (db : Database) : Prop where
  groups : ∀ row ∈ db.rows Table.userGroupStages, (row.get "user_group_id").Names
  stages : ∀ row ∈ db.rows Table.userGroupStages, (row.get "stage_id").Numbers

/-- Every grant names a group that there is, has the context of that group and a number for its
stage. -/
structure HasGrants (db : Database) : Prop extends db.HasGroups where
  grants : ∀ row ∈ db.rows Table.userGroupStages,
    (∃ group ∈ db.rows Table.userGroups, row.get "user_group_id" = group.get "id" ∧
      row.get "context_id" = group.get "context_id") ∧ (row.get "stage_id").Numbers

/-- The tables in which groups are looked up. -/
def groupTables : List String := [Table.userGroups, Table.userGroupStages, Table.memberships]

variable {db : Database} {row : Row} {stage : Stage} {contextId groupId userId : String}
variable {g : UserGroup}

/-- A stage is told by the label of its number, whichever way this is written. -/
lemma label_stage_iff (h : (row.get "stage_id").Numbers) :
    row.label "stage_id" = toString stage.code ↔
      Stage.ofValue? (row.get "stage_id") = some stage := by
  obtain ⟨n, h⟩ := h
  have hlabel : row.label "stage_id" = n.repr := by
    unfold Fields.label
    rcases h with h | h <;> rw [h] <;> rfl
  have hstage : Stage.ofValue? (row.get "stage_id") = Stage.ofValue? (.int n) := by
    rcases h with h | h <;> rw [h]
    rfl
  rw [hlabel, hstage, Stage.ofValue?_int_eq_some_iff]
  exact Int.repr_inj

/-- The groups whose grants are looked up by the stage and by other conditions. -/
lemma HasStages.mem_grantIds (h : db.HasStages) (filters : List Filter) (groupId : String)
    (stage : Stage) :
    groupId ∈ Store.presentLabels "user_group_id" (db.found Table.userGroupStages
      (filters ++ [.equals "stage_id" (toString stage.code)]) []) ↔
      ∃ row ∈ db.rows Table.userGroupStages, row.get "user_group_id" = .text groupId ∧
        meets filters row = true ∧ Stage.ofValue? (row.get "stage_id") = some stage := by
  have hmeets : ∀ row ∈ db.rows Table.userGroupStages,
      meets (filters ++ [.equals "stage_id" (toString stage.code)]) row = true ↔
        meets filters row = true ∧ Stage.ofValue? (row.get "stage_id") = some stage := by
    intro row hrow
    rw [← label_stage_iff (h.stages row hrow), meets, List.all_append, Bool.and_eq_true, ← meets]
    simp
  rw [mem_presentLabels fun row hrow => h.groups row (mem_found.1 hrow).1]
  constructor
  · rintro ⟨row, hrow, hgroup⟩
    obtain ⟨hmem, hfound⟩ := mem_found.1 hrow
    exact ⟨row, hmem, hgroup, (hmeets row hmem).1 hfound⟩
  · rintro ⟨row, hmem, hgroup, hrest⟩
    exact ⟨row, mem_found.2 ⟨hmem, (hmeets row hmem).2 hrest⟩, hgroup⟩

namespace HasGrants

lemma hasStages (h : db.HasGrants) : db.HasStages where
  groups row hrow := by
    obtain ⟨⟨group, hgroup, hid, -⟩, -⟩ := h.grants row hrow
    exact hid ▸ h.ids group hgroup
  stages row hrow := (h.grants row hrow).2

lemma names (h : db.HasGrants) (hrow : row ∈ db.rows Table.userGroupStages) :
    (row.get "user_group_id").Names :=
  h.hasStages.groups row hrow

lemma mem_openIds (h : db.HasGrants) : groupId ∈ Store.openIds db (.text contextId) stage ↔
    ∃ row ∈ db.rows Table.userGroupStages, row.get "user_group_id" = .text groupId ∧
      row.label "context_id" = contextId ∧ Stage.ofValue? (row.get "stage_id") = some stage := by
  have hmem := h.hasStages.mem_grantIds [.equals "context_id" contextId] groupId stage
  simp only [meets_cons, meets_nil, admits_equals, and_true] at hmem
  exact hmem

/-- The context of a grant is that of its group, so that the stages of a group can be found in its
context. -/
lemma mem_openIds_iff_permits (h : db.HasGrants) {role : Role}
    (hrow : row ∈ db.rows Table.userGroups) :
    row.label "id" ∈ Store.openIds db (.text (row.label "context_id")) stage ↔
      (db.groupAt role row).permits stage = true := by
  have hid := h.ids row hrow
  rw [h.mem_openIds, UserGroup.permits, List.contains_iff_mem, groupAt, stagesOf,
    mem_stagesFor_of_mem (List.mem_singleton.2 rfl) (label_ne_empty hid)]
  constructor
  · rintro ⟨grant, hgrant, hgroup, -, hstage⟩
    refine ⟨grant, hgrant, ?_, hstage⟩
    rw [labelOrEmpty_of_names (h.names hgrant), label_of_get hgroup]
  · rintro ⟨grant, hgrant, hgroup, hstage⟩
    obtain ⟨⟨row', hrow', hget, hcontext⟩, -⟩ := h.grants grant hgrant
    rw [labelOrEmpty_of_names (h.names hgrant), label_eq_iff (h.names hgrant)] at hgroup
    have hsame : row' = row :=
      h.group_unique hrow' hrow (hget.symm.trans (hgroup.trans ((label_eq_iff hid).1 rfl).symm))
    refine ⟨grant, hgrant, hgroup, ?_, hstage⟩
    rw [Fields.label, hcontext, hsame, Fields.label]

/-- The groups that are looked up for a stage are the groups of the context that permit it. -/
lemma mem_groupsForStage (h : db.HasGrants) :
    g ∈ db.groupsForStage (.text contextId) stage ↔ ∃ row ∈ db.rows Table.userGroups,
      row.label "context_id" = contextId ∧
        (∃ role, Store.roleOf row = .ok role ∧ g = db.groupAt role row) ∧
          g.permits stage = true := by
  unfold groupsForStage
  rw [h.mem_groupsAmong]
  constructor
  · rintro ⟨row, hrow, hid, hcontext, role, hrole, rfl⟩
    have hlabel : row.label "context_id" = contextId := hcontext.resolve_left (by simp)
    subst hlabel
    exact ⟨row, hrow, rfl, ⟨role, hrole, rfl⟩, (h.mem_openIds_iff_permits hrow).1 hid⟩
  · rintro ⟨row, hrow, rfl, ⟨role, hrole, rfl⟩, hpermits⟩
    exact ⟨row, hrow, (h.mem_openIds_iff_permits hrow).2 hpermits, .inr rfl, role, hrole, rfl⟩

lemma mem_groupsForUser (h : db.HasGrants) {role : Role}
    (hrow : row ∈ db.rows Table.userGroups) (hcontext : row.label "context_id" = contextId)
    (hrole : Store.roleOf row = .ok role) {member : Row}
    (hmember : member ∈ db.rows Table.memberships)
    (hgroup : member.get "user_group_id" = .text (row.label "id"))
    (huser : member.label "user_id" = userId) :
    db.groupAt role row ∈ db.groupsForUser (.text userId) (.text contextId) := by
  unfold groupsForUser
  rw [h.mem_groupsAmong]
  have hpresent : (member.get "user_group_id").isPresent = true := by
    rw [hgroup]
    exact isPresent_of_names ⟨_, rfl, label_ne_empty (h.ids row hrow)⟩
  have hfound : member ∈ db.found Table.memberships [.equals "user_id" userId] [] :=
    mem_found.2 ⟨hmember, by simpa using huser⟩
  have hid : row.label "id" ∈ Store.presentLabels "user_group_id"
      (db.found Table.memberships [.equals "user_id" userId] []) :=
    List.mem_map.2 ⟨member, List.mem_filter.2 ⟨hfound, hpresent⟩, label_of_get hgroup⟩
  exact ⟨row, hrow, hid, .inr hcontext, role, hrole, rfl⟩

end HasGrants

/-- In ascending order a group is the only one of its identity. -/
lemma filter_id_eq_singleton {gs : List UserGroup} (h : gs.Pairwise (·.id < ·.id)) (hg : g ∈ gs) :
    gs.filter (·.id == g.id) = [g] := by
  induction gs with
  | nil => cases hg
  | cons first rest ih =>
    obtain ⟨hfirst, hrest⟩ := List.pairwise_cons.1 h
    rcases List.mem_cons.1 hg with rfl | hg
    · have hnone : rest.filter (·.id == g.id) = [] := by
        rw [List.filter_eq_nil_iff]
        intro other hother
        simpa using (hfirst other hother).ne'
      simp [hnone]
    · have hne : (first.id == g.id) = false := by simpa using (hfirst g hg).ne
      rw [List.filter_cons, hne]
      exact ih hrest hg

end Database

namespace Store

open Database

variable {db : Database} {contextId groupId userId : String}

/-- The identities, roles and stages of groups are found wherever their tables are legible. -/
lemma run_groupsForStage (h : db.HasGroups) (hlegible : ∀ table ∈ groupTables, db.Legible table)
    (contextId : String) (stage : Stage) :
    ∃ db', (groupsForStage (.text contextId) stage).run db =
      (.ok (db.groupsForStage (.text contextId) stage), db') :=
  (finds_groupsForStage (by decide) (by decide) (h.haveRoles _ _)).exists_run hlegible

lemma run_groupsForUser (h : db.HasGroups) (hlegible : ∀ table ∈ groupTables, db.Legible table)
    (userId contextId : String) :
    ∃ db', (groupsForUser (.text userId) (.text contextId)).run db =
      (.ok (db.groupsForUser (.text userId) (.text contextId)), db') :=
  (finds_groupsForUser (by decide) (by decide) (by decide) (h.haveRoles _ _)).exists_run hlegible

lemma run_group? (h : db.HasGroups) (hlegible : ∀ table ∈ groupTables, db.Legible table)
    (groupId : String) :
    ∃ db', (group? (.text groupId)).run db = (.ok (db.group? (.text groupId)), db') :=
  (finds_group? (by decide) (by decide) rfl (h.haveRoles _ _)).exists_run hlegible

/-- The groups that are looked up for a stage of a context, in ascending order and without repeats,
are the groups of the context that are found by their names and permit the stage. For each of
their members the group is found once, as it is for the stage; and the context that it names
is the one that was asked for. -/
theorem open_groups_agree (h : db.HasGrants) (hlegible : ∀ table ∈ groupTables, db.Legible table)
    (contextId : String) (stage : Stage) :
    ∃ groups db', (groupsForStage (.text contextId) stage).run db = (.ok groups, db') ∧
      groups.Pairwise (·.id < ·.id) ∧
      (∀ g, g ∈ groups ↔ g.permits stage = true ∧
        (∃ row ∈ db.rows Table.userGroups,
          row.get "id" = .text g.id ∧ row.label "context_id" = contextId) ∧
        ∃ db', (group? (.text g.id)).run db = (.ok (some g), db')) ∧
      ∀ g ∈ groups,
        (∀ row ∈ db.rows Table.userGroups, row.get "id" = .text g.id →
          ∀ c, row.get "context_id" = .text c → c = contextId ∧ g.contextId = contextId) ∧
        ∀ userId, (∃ row ∈ db.rows Table.memberships,
            row.get "user_group_id" = .text g.id ∧ row.label "user_id" = userId) →
          ∃ own db', (groupsForUser (.text userId) (.text contextId)).run db = (.ok own, db') ∧
            own.filter (·.id == g.id) = [g] := by
  obtain ⟨db', hrun⟩ := run_groupsForStage h.toHasGroups hlegible contextId stage
  refine ⟨_, db', hrun, h.pairwise_groupsAmong _ _, fun g => ?_, fun g hg => ⟨?_, ?_⟩⟩
  · rw [h.mem_groupsForStage]
    obtain ⟨db'', hrun''⟩ := run_group? h.toHasGroups hlegible g.id
    constructor
    · rintro ⟨row, hrow, hcontext, ⟨role, hrole, rfl⟩, hpermits⟩
      have hget : row.get "id" = .text (db.groupAt role row).id :=
        (label_eq_iff (h.ids row hrow)).1 rfl
      refine ⟨hpermits, ⟨row, hrow, hget, hcontext⟩, db'', ?_⟩
      rw [hrun'', h.group?_eq hrow hget hrole]
    · rintro ⟨hpermits, ⟨row, hrow, hget, hcontext⟩, t, ht⟩
      obtain ⟨role, hrole⟩ := h.roles row hrow
      rw [hrun'', h.group?_eq hrow hget hrole] at ht
      have hgroup := Option.some.inj (Except.ok.inj (Prod.mk.inj ht).1)
      exact ⟨row, hrow, hcontext, ⟨role, hrole, hgroup.symm⟩, hpermits⟩
  · obtain ⟨row, hrow, hcontext, ⟨role, -, rfl⟩, -⟩ := h.mem_groupsForStage.1 hg
    intro row' hrow' hget c hc
    have hsame : row' = row :=
      h.group_unique hrow' hrow (hget.trans ((label_eq_iff (h.ids row hrow)).1 rfl).symm)
    subst hsame
    rw [label_of_get hc] at hcontext
    subst hcontext
    refine ⟨rfl, ?_⟩
    rw [groupAt, Fields.labelOrEmpty, hc, Value.labelOrEmpty_text]
  · obtain ⟨row, hrow, hcontext, ⟨role, hrole, rfl⟩, -⟩ := h.mem_groupsForStage.1 hg
    rintro userId ⟨member, hmember, hgroup, huser⟩
    obtain ⟨t, ht⟩ := run_groupsForUser h.toHasGroups hlegible userId contextId
    refine ⟨_, t, ht, filter_id_eq_singleton (h.pairwise_groupsAmong _ _) ?_⟩
    exact h.mem_groupsForUser hrow hcontext hrole hmember hgroup huser

/-- A grant in the one context of the office below. -/
def grantRow (groupId : String) (stage : Value) : Row :=
  [("user_group_id", .text groupId), ("context_id", .text "ctx-1"), ("stage_id", stage)]

/-- Two groups that are open at intake: one is said so twice and has a stage that is none besides,
and of the other the number of the stage is written as a text. -/
def openOffice : Database :=
  { empty with tables := [
    (Table.userGroups, [
      [("id", .text "g-2"), ("context_id", .text "ctx-1"), ("role_id", .int Role.subEditor.code)],
      [("id", .text "g-1"), ("context_id", .text "ctx-1"), ("role_id", .int Role.manager.code)]]),
    (Table.userGroupStages, [grantRow "g-1" (.int 1), grantRow "g-1" (.int 9),
      grantRow "g-2" (.text "1"), grantRow "g-1" (.int 1)]),
    (Table.memberships, [[("user_group_id", .text "g-2"), ("user_id", .text "u-1")]])] }

lemma openOffice_hasGrants : openOffice.HasGrants where
  ids row hrow := by
    rcases List.mem_pair.1 hrow with rfl | rfl
    · exact ⟨"g-2", rfl, by decide⟩
    · exact ⟨"g-1", rfl, by decide⟩
  nodup := by decide
  roles row hrow := by
    rcases List.mem_pair.1 hrow with rfl | rfl
    · exact ⟨.subEditor, rfl⟩
    · exact ⟨.manager, rfl⟩
  grants row hrow := by
    obtain ⟨groupId, stage, n, rfl, hid, hn⟩ : ∃ groupId stage n, row = grantRow groupId stage ∧
        groupId ∈ ["g-2", "g-1"] ∧ (stage = .int n ∨ stage = .text n.repr) := by
      have hrows : openOffice.rows Table.userGroupStages = [grantRow "g-1" (.int 1),
        grantRow "g-1" (.int 9), grantRow "g-2" (.text "1"), grantRow "g-1" (.int 1)] := rfl
      simp only [hrows, List.mem_cons, List.not_mem_nil, or_false] at hrow
      rcases hrow with rfl | rfl | rfl | rfl
      · exact ⟨_, _, 1, rfl, by decide, .inl rfl⟩
      · exact ⟨_, _, 9, rfl, by decide, .inl rfl⟩
      · exact ⟨_, _, 1, rfl, by decide, .inr rfl⟩
      · exact ⟨_, _, 1, rfl, by decide, .inl rfl⟩
    refine ⟨?_, n, hn⟩
    rcases List.mem_pair.1 hid with rfl | rfl
    · exact ⟨_, List.mem_cons_self, rfl, rfl⟩
    · exact ⟨_, List.mem_cons_of_mem _ List.mem_cons_self, rfl, rfl⟩

lemma openOffice_legible : ∀ table ∈ groupTables, openOffice.Legible table :=
  fun _ _ => ⟨rfl, nofun⟩

/-- In this office both groups are open at intake, and the one that has a member is found for the
member as it is found by its name. -/
theorem openOffice_agrees : openOffice.HasGrants ∧
    (∀ table ∈ groupTables, openOffice.Legible table) ∧ ∃ groups,
    (∃ db', (groupsForStage (.text "ctx-1") .intake).run openOffice = (.ok groups, db')) ∧
    groups.map (·.id) = ["g-1", "g-2"] ∧ ∃ g ∈ groups,
      (∃ db', (group? (.text g.id)).run openOffice = (.ok (some g), db')) ∧
      ∃ own db', (groupsForUser (.text "u-1") (.text "ctx-1")).run openOffice = (.ok own, db') ∧
        own.filter (·.id == g.id) = [g] := by
  obtain ⟨groups, db', hrun, -, hmem, hown⟩ :=
    open_groups_agree openOffice_hasGrants openOffice_legible "ctx-1" .intake
  have hids : groups.map (·.id) = ["g-1", "g-2"] := by
    have heval : ((groupsForStage (.text "ctx-1") .intake).run openOffice).1.toOption.map
      (·.map (·.id)) = some ["g-1", "g-2"] := by decide +kernel
    simpa [hrun, Except.toOption] using heval
  obtain ⟨g, hg, hid⟩ : ∃ g ∈ groups, g.id = "g-2" := by
    rw [← List.mem_map, hids]
    decide
  obtain ⟨-, -, hnamed⟩ := (hmem g).1 hg
  have hmember : ∃ row ∈ openOffice.rows Table.memberships,
      row.get "user_group_id" = .text g.id ∧ row.label "user_id" = "u-1" := by
    rw [hid]
    exact ⟨_, List.mem_cons_self, rfl, rfl⟩
  exact ⟨openOffice_hasGrants, openOffice_legible, groups, ⟨db', hrun⟩, hids, g, hg, hnamed,
    (hown g hg).2 "u-1" hmember⟩

end Store
end EditorialDesk
