import EditorialDesk.Proofs.Database.Firm
import EditorialDesk.Proofs.Store.Register
import EditorialDesk.Proofs.Store.Scope
import EditorialDesk.Proofs.Store.Steady

/-!
# Databases that grow

States of a firm database whose groups have identities of their own. A later state has the
directory of the earlier one, and more assignments at most, through groups of editors. A
group that the directory has told of has one row, by which it is found again.
-/
namespace EditorialDesk

/-! ## States of the database -/

namespace Database

open Store

/-- A firm database in which no two groups have one identity. -/
structure Certain (db : Database) : Prop extends db.Firm where
  groupIds : (presentLabels "id" (db.rows Table.userGroups)).Nodup

/-- A group has a row that gives it a role, and no look-up of groups and their stages fails. -/
structure Knows (g : UserGroup) (db : Database) : Prop where
  row : ∃ row ∈ db.rows Table.userGroups,
    (row.get "id").isPresent = true ∧ row.label "id" = g.id ∧ roleOf row = .ok g.role
  groups : db.failure? Table.userGroups .select = none
  stages : db.failure? Table.userGroupStages .select = none

/-- An assignment can be read from the row, through a group of editors. -/
def HasEditor (db : Database) (row : Row) : Prop :=
  ∃ a, assignmentOf row = .ok a ∧ ThroughEditors (Knows · db) a

/-- A state with the same directory, and perhaps more assignments through groups of editors. -/
structure Grown (db db' : Database) : Prop extends Spares (· ∈ Table.directory) db db' where
  assignments : ∃ new, db'.rows Table.stageAssignments = db.rows Table.stageAssignments ++ new ∧
    ∀ row ∈ new, HasEditor db row

/-- A state that differs in notifications only. -/
abbrev Still : Database → Database → Prop := Spares (· ≠ Table.notifications)

variable {db mid db' : Database} {g : UserGroup}

lemma Spares.knows_iff (h : Spares (· ∈ Table.directory) db db') : Knows g db' ↔ Knows g db := by
  have hrows := h.rows Table.userGroups (by decide)
  constructor
  · exact fun ⟨hrow, hgroups, hstages⟩ =>
      ⟨hrows ▸ hrow, h.failure?_eq ▸ hgroups, h.failure?_eq ▸ hstages⟩
  · exact fun ⟨hrow, hgroups, hstages⟩ =>
      ⟨hrows ▸ hrow, h.failure?_eq ▸ hgroups, h.failure?_eq ▸ hstages⟩

lemma Spares.certain (h : Spares (· ∈ Table.directory) db db') (hdb : db.Certain) : db'.Certain :=
  ⟨h.firm hdb.toFirm, h.rows Table.userGroups (by decide) ▸ hdb.groupIds⟩

lemma Spares.hasEditor_iff (h : Spares (· ∈ Table.directory) db db') {row : Row} :
    HasEditor db' row ↔ HasEditor db row := by
  simp only [HasEditor, ThroughEditors, h.knows_iff]

/-- Where neither the directory nor the assignments are written, nothing has grown. -/
lemma Spares.grown (h : Spares (· ∈ Table.stageAssignments :: Table.directory) db db') :
    Grown db db' where
  toSpares := h.mono fun _ => List.mem_cons_of_mem _
  assignments := ⟨[], by rw [h.rows _ List.mem_cons_self, List.append_nil],
    fun _ hrow => absurd hrow List.not_mem_nil⟩

lemma Still.grown (h : Still db db') : Grown db db' :=
  Spares.grown <| h.mono fun table ht heq => by
    subst heq
    exact absurd ht (by decide)

lemma Grown.trans (h : Grown db mid) (h' : Grown mid db') : Grown db db' where
  toSpares := h.toSpares.trans h'.toSpares
  assignments := by
    obtain ⟨new, hnew, hall⟩ := h.assignments
    obtain ⟨more, hmore, hall'⟩ := h'.assignments
    refine ⟨new ++ more, by rw [hmore, hnew, List.append_assoc], fun row hrow => ?_⟩
    exact (List.mem_append.1 hrow).elim (hall row) fun hrow =>
      h.toSpares.hasEditor_iff.1 (hall' row hrow)

lemma Grown.seats_subset (h : Grown db db') :
    seats (db.rows Table.stageAssignments) ⊆ seats (db'.rows Table.stageAssignments) := by
  obtain ⟨new, hnew, -⟩ := h.assignments
  rw [hnew, seats_append]
  exact List.subset_append_left _ _

end Database

namespace Store

open Database Session

variable {db db' u : Database} {g : UserGroup} {gs : List UserGroup}

/-! ## The directory -/

/-- Groups that are looked up by their identities are known from then on. -/
lemma knows_of_groupsAmong {ids : List String} {contextId : Value} (hdb : db.Firm)
    (h : (groupsAmong ids contextId).run db = (.ok gs, db')) (hg : g ∈ gs) :
    Knows g db ∧ g.id ∈ ids := by
  unfold groupsAmong at h
  split at h
  · obtain ⟨rfl, -⟩ := run_pure_eq_ok.1 h
    exact absurd hg List.not_mem_nil
  dsimp only at h
  obtain ⟨rows, mid, hrows, h⟩ := run_bind_eq_ok.1 h
  obtain ⟨hgroups, rfl, rfl⟩ := (run_lookup_eq_ok hdb).1 hrows
  obtain ⟨granted, mid, hgranted, h⟩ := run_bind_eq_ok.1 h
  obtain ⟨hall, -⟩ := run_ofExcept_eq_ok.1 h
  obtain ⟨row, hrow, hgroup⟩ := exists_of_mem_mapM hall hg
  obtain ⟨hmem, hpresent⟩ := List.mem_filter.1 hrow
  obtain ⟨hmem, hmeets⟩ := mem_found.1 hmem
  obtain ⟨hrole, hid⟩ : roleOf row = .ok g.role ∧ row.label "id" = g.id := by
    unfold groupOf at hgroup
    cases hrole : roleOf row with
    | error fault => simp [hrole, bind, Except.bind] at hgroup
    | ok role =>
      rw [hrole] at hgroup
      cases hgroup
      exact ⟨rfl, rfl⟩
  have hstages : db.failure? Table.userGroupStages .select = none := by
    have hne : ∀ {ids : List String} {id : String}, id ∈ ids → ids.isEmpty = false := by
      intro ids id hid
      rw [List.isEmpty_eq_false_iff]
      exact List.ne_nil_of_mem hid
    unfold grants at hgranted
    rw [hne (List.mem_map_of_mem hrow), if_neg Bool.false_ne_true] at hgranted
    obtain ⟨rows, mid, hrows, -⟩ := run_bind_eq_ok.1 hgranted
    exact ((run_lookup_eq_ok (hdb.note _)).1 hrows).1
  refine ⟨⟨⟨row, hmem, hpresent, hid, hrole⟩, hgroups, hstages⟩, ?_⟩
  rw [meets_cons, admits_among, hid] at hmeets
  exact hmeets.1

/-- A group is looked up among the groups of its identity. -/
lemma run_group?_text_eq_ok {id : String} {r : Option UserGroup} :
    (group? (.text id)).run db = (.ok r, db') ↔
      ∃ gs, (groupsAmong [id] .null).run db = (.ok gs, db') ∧ gs.head? = r := by
  unfold group?
  rw [run_bind_eq_ok]
  constructor
  · rintro ⟨v, mid, hnamed, h⟩
    obtain ⟨hv, rfl⟩ := run_ofExcept_eq_ok.1 hnamed
    cases hv
    obtain ⟨gs, mid, hgs, h⟩ := run_bind_eq_ok.1 h
    obtain ⟨hr, rfl⟩ := run_pure_eq_ok.1 h
    exact ⟨gs, hgs, hr⟩
  · rintro ⟨gs, hgs, rfl⟩
    exact ⟨.text id, db, run_ofExcept_eq_ok.2 ⟨rfl, rfl⟩,
      run_bind_eq_ok.2 ⟨gs, db', hgs, run_pure_eq_ok.2 ⟨rfl, rfl⟩⟩⟩

/-- Groups with identities of their own have one row each. -/
lemma found_eq_of_certain (hdb : db.Certain) {row : Row} (hrow : row ∈ db.rows Table.userGroups)
    (hpresent : (row.get "id").isPresent = true) :
    ((db.found Table.userGroups [.among "id" [row.label "id"]] ["id"]).filter
      fun r => (r.get "id").isPresent) = [row] := by
  set named := (db.rows Table.userGroups).filter fun r => (r.get "id").isPresent with hnamed
  have hmem : row ∈ named := List.mem_filter.2 ⟨hrow, hpresent⟩
  have hone : named.filter (meets [.among "id" [row.label "id"]]) = [row] := by
    have hinj : ∀ r ∈ named, r.label "id" = row.label "id" → r = row := fun r hr heq =>
      List.inj_on_of_nodup_map hdb.groupIds hr hmem heq
    have hnodup : named.Nodup := List.Nodup.of_map _ hdb.groupIds
    have heq : named.filter (meets [.among "id" [row.label "id"]]) = named.filter (· == row) := by
      refine List.filter_congr fun r hr => ?_
      rw [Bool.eq_iff_iff, meets_cons, admits_among, List.mem_singleton, beq_iff_eq]
      exact ⟨fun h => hinj r hr h.1, fun h => ⟨h ▸ rfl, rfl⟩⟩
    rw [heq, List.filter_beq, List.count_eq_one_of_mem hnodup hmem]
    rfl
  have hperm : (db.found Table.userGroups [.among "id" [row.label "id"]] ["id"]).Perm
      ((db.rows Table.userGroups).filter (meets [.among "id" [row.label "id"]])) :=
    arrange_perm _ _
  refine List.perm_singleton.1 ((hperm.filter _).trans ?_)
  rw [List.filter_filter, ← hone, hnamed, List.filter_filter]
  simp only [Bool.and_comm]
  exact List.Perm.refl _

lemma run_group?_of_knows (hdb : db.Certain) (hg : Knows g db) :
    ∃ g' db', (group? (.text g.id)).run db = (.ok (some g'), db') ∧ g'.role = g.role := by
  obtain ⟨⟨row, hrow, hpresent, hid, hrole⟩, hgroups, hstages⟩ := hg
  have hfound := found_eq_of_certain hdb hrow hpresent
  rw [hid] at hfound
  obtain ⟨granted, mid, hgranted⟩ : ∃ granted mid,
      (grants [g.id]).run (db.note (.select Table.userGroups [.among "id" [g.id]] ["id"])) =
        (.ok granted, mid) := by
    refine ⟨_, _, run_bind_eq_ok.2 ⟨_, _, (run_lookup_eq_ok (hdb.toFirm.note _)).2
      ⟨hstages, rfl, rfl⟩, run_pure_eq_ok.2 ⟨rfl, rfl⟩⟩⟩
  obtain ⟨g', hg', hrole'⟩ : ∃ g', [row].mapM (groupOf granted) = .ok [g'] ∧ g'.role = g.role := by
    have hgroup : groupOf granted row = .ok ⟨row.label "id", row.labelOrEmpty "context_id", g.role,
        row.labelOrEmpty "name", (row.get "recommend_only").isPresent,
        stagesFor granted (row.label "id")⟩ := by
      rw [groupOf, hrole]
      rfl
    exact ⟨_, mapM_cons_eq_ok.2 ⟨_, [], hgroup, rfl, rfl⟩, rfl⟩
  refine ⟨g', mid, run_group?_text_eq_ok.2 ⟨[g'], ?_, rfl⟩, hrole'⟩
  refine run_bind_eq_ok.2 ⟨_, _, (run_lookup_eq_ok hdb.toFirm).2 ⟨hgroups, rfl, rfl⟩, ?_⟩
  change Session.run (do
    let granted ← grants (((db.found Table.userGroups [.among "id" [g.id]] ["id"]).filter
      fun r => (r.get "id").isPresent).map (·.label "id"))
    Program.ofExcept (((db.found Table.userGroups [.among "id" [g.id]] ["id"]).filter
      fun r => (r.get "id").isPresent).mapM (groupOf granted))) _ = _
  rw [hfound, List.map_singleton, hid]
  exact run_bind_eq_ok.2 ⟨granted, mid, hgranted, run_ofExcept_eq_ok.2 ⟨hg', rfl⟩⟩

/-- The requests to the directory only look into its tables, and at no clock. -/
lemma session_consults (clock clock' : Reading Calendar.Moment) {q : Request}
    (hq : consults q = true) :
    (session clock q).Asks Call.Consults ∧ session clock' q = session clock q := by
  cases q with
  | groupsForStage contextId stage => exact ⟨groupsForStage_consults contextId stage, rfl⟩
  | groupsForUser userId contextId => exact ⟨groupsForUser_consults userId contextId, rfl⟩
  | group id => exact ⟨group?_consults id, rfl⟩
  | members groupId contextId => exact ⟨members_consults groupId contextId, rfl⟩
  | subEditors grouping contextId => exact ⟨subEditors_consults grouping contextId, rfl⟩
  | managers contextId => exact ⟨managers_consults contextId, rfl⟩
  | assignments _ | enroll _ | notify _ | withdraw _ _ _ | log _ | save _ =>
    exact absurd hq Bool.noConfusion

end Store
end EditorialDesk
