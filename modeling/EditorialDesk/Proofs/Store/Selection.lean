import EditorialDesk.Proofs.Store.OpenGroups
import EditorialDesk.Proofs.Store.ReadBack

/-!
# Assignments selected by stage, group and user

Each condition of a query on the assignments of a submission narrows the rows that are
looked up, before they are put in order; a stage does so through the groups that are open at
it, which are looked up first. All of it comes to leaving out assignments from the list of
all those of the submission.
-/
namespace EditorialDesk

open Database

/-- A grant says that a group is open at a stage. -/
def Database.grantsStage (db : Database) (groupId : String) (stage : Stage) : Bool :=
  (db.rows Table.userGroupStages).any fun row => row.get "user_group_id" == .text groupId &&
    Stage.ofValue? (row.get "stage_id") == some stage

/-- Whether an assignment is through the group and for the user that are asked for, and its group
is open at the stage that is asked for. -/
def AssignmentQuery.selects (q : AssignmentQuery) (db : Database) (a : StageAssignment) : Bool :=
  q.groupId.all (a.seat.groupId == ·.label) && q.userId.all (a.seat.userId == ·.label) &&
    q.stage.all (db.grantsStage a.seat.groupId)

/-- Assignments can be read from their rows, and grants name a group and have a number for the
stage. -/
structure Database.HasAssignments (db : Database) : Prop extends db.HasStages where
  legible : ∀ table ∈ [Table.stageAssignments, Table.userGroupStages], db.Legible table
  assignments : ∀ row ∈ db.rows Table.stageAssignments, Fields.IsAssignment row

namespace Store

variable {db : Database} {q : AssignmentQuery} {row : Row} {stage : Stage} {groupId : String}

lemma meets_append (filters others : List Filter) (row : Row) :
    meets (filters ++ others) row = (meets filters row && meets others row) :=
  List.all_append

lemma meets_toList (condition : Option Filter) (row : Row) :
    meets condition.toList row = condition.all (·.admits row) := by
  cases condition <;> simp [meets]

/-- The groups that are looked up for a stage. -/
def stageGroups (db : Database) (stage : Stage) : List String :=
  presentLabels "user_group_id"
    (db.found Table.userGroupStages [.equals "stage_id" (toString stage.code)] [])

/-- The conditions of a query besides that on the submission. -/
def narrowing (db : Database) (q : AssignmentQuery) : List Filter :=
  (q.groupId.map fun id => .equals "user_group_id" id.label).toList ++
    (q.userId.map fun id => .equals "user_id" id.label).toList ++
      (q.stage.map fun stage => .among "user_group_id" (stageGroups db stage)).toList

/-- The rows that a query finds. -/
def selectedRows (db : Database) (q : AssignmentQuery) : List Row :=
  db.found Table.stageAssignments
    (.equals "submission_id" q.submissionId.label :: narrowing db q) ["date_assigned", "id"]

lemma mem_stageGroups (h : db.HasStages) :
    groupId ∈ stageGroups db stage ↔ db.grantsStage groupId stage = true := by
  have hmem := h.mem_grantIds [] groupId stage
  simp only [meets_nil, true_and] at hmem
  simp only [grantsStage, List.any_eq_true, Bool.and_eq_true, beq_iff_eq]
  exact hmem

/-! ## The rows of a query -/

/-- Conditions can be put to the rows of a submission once these are in order. -/
lemma selectedRows_eq (db : Database) (q : AssignmentQuery) : selectedRows db q =
    (rowsOf q.submissionId (db.rows Table.stageAssignments)).filter (meets (narrowing db q)) := by
  unfold selectedRows found rowsOf
  rw [filter_arrange, List.filter_filter]
  refine congrArg _ (List.filter_congr fun row _ => ?_)
  rw [Bool.and_comm]
  exact meets_append [_] _ row

/-- A row meets the conditions besides the submission if its assignment is selected. -/
lemma selects_eq_meets (h : db.HasAssignments) {a : StageAssignment}
    (ha : assignmentOf row = .ok a) : q.selects db a = meets (narrowing db q) row := by
  have hseat := seat_of_assignmentOf ha
  have hgroup : a.seat.groupId = row.label "user_group_id" :=
    (List.cons.inj (List.cons.inj hseat).2).1
  have huser : a.seat.userId = row.label "user_id" :=
    (List.cons.inj (List.cons.inj (List.cons.inj hseat).2).2).1
  have hstage : ∀ stage, db.grantsStage (row.label "user_group_id") stage =
      (stageGroups db stage).contains (row.label "user_group_id") := by
    intro stage
    rw [Bool.eq_iff_iff, List.contains_iff_mem, mem_stageGroups h.toHasStages]
  unfold AssignmentQuery.selects narrowing
  rw [meets_append, meets_append, meets_toList, meets_toList, meets_toList, Option.all_map,
    Option.all_map, Option.all_map, hgroup, huser, funext hstage]
  rfl

lemma readAll_selectedRows (h : db.HasAssignments) : readAll (selectedRows db q) =
    (readAll (rowsOf q.submissionId (db.rows Table.stageAssignments))).filter (q.selects db) := by
  rw [selectedRows_eq]
  refine (filter_readAll fun row hrow => ?_).symm
  obtain ⟨a, ha⟩ := h.assignments row (mem_rowsOf.1 hrow).1
  exact ⟨a, ha, selects_eq_meets h ha⟩

/-! ## The runs of a query -/

lemma finds_selectAssignments (h : db.HasAssignments) {filters : List Filter} :
    (selectAssignments filters).Finds db [Table.stageAssignments, Table.userGroupStages]
      (readAll (db.found Table.stageAssignments filters ["date_assigned", "id"])) := by
  unfold selectAssignments
  refine (Session.finds_lookup (by simp) _ _).bind (Session.finds_ofExcept ?_)
  exact mapM_eq_ok fun row hrow => h.assignments row (mem_found.1 hrow).1

/-- A query looks up the groups of the stage first, and stops there if there are none. -/
lemma finds_assignments (h : db.HasAssignments) (q : AssignmentQuery) :
    (assignments q).Finds db [Table.stageAssignments, Table.userGroupStages]
      (readAll (selectedRows db q)) := by
  have hfilters : .equals "submission_id" q.submissionId.label :: narrowing db q =
      assignmentFilters q ++
        (q.stage.map fun stage => .among "user_group_id" (stageGroups db stage)).toList := rfl
  unfold assignments selectedRows
  rw [hfilters]
  cases q.stage with
  | none =>
    rw [Option.map_none, Option.toList_none, List.append_nil]
    exact finds_selectAssignments h
  | some stage =>
    rw [Option.map_some, Option.toList_some]
    refine (Session.finds_lookup (by simp) _ _).bind ?_
    change Session.Finds db _ (if (stageGroups db stage).isEmpty then pure [] else
      selectAssignments (assignmentFilters q ++ [.among "user_group_id" (stageGroups db stage)])) _
    by_cases hgroups : stageGroups db stage = []
    · rw [hgroups, found_of_among_nil db _ (List.mem_append_right _ (List.mem_singleton_self _))]
      exact Session.finds_pure
    · rw [if_neg (by simpa using hgroups)]
      exact finds_selectAssignments h

/-- A query lists those of the assignments of its submission, in the order in which they are listed
without conditions, that are through the group, for the user and through a group with a grant of
the stage, each as far as it is asked for. Where no grant gives the stage to a group there are
none. -/
theorem assignments_selected (h : db.HasAssignments) (clock : Reading Calendar.Moment)
    (q : AssignmentQuery) : ∃ all found db' db'',
      Session.run (session clock (allOf q.submissionId)) db = (.ok all, db') ∧
      Session.run (session clock (.assignments q)) db = (.ok found, db'') ∧
      found = all.filter (q.selects db) ∧
      ∀ stage, q.stage = some stage → (∀ groupId, db.grantsStage groupId stage = false) →
        found = [] := by
  obtain ⟨db', hall⟩ :=
    (finds_assignments h ⟨q.submissionId, none, none, none⟩).exists_run h.legible
  obtain ⟨db'', hfound⟩ := (finds_assignments h q).exists_run h.legible
  have hnone : readAll (selectedRows db ⟨q.submissionId, none, none, none⟩) =
      readAll (rowsOf q.submissionId (db.rows Table.stageAssignments)) := by
    rw [readAll_selectedRows h]
    exact List.filter_eq_self.2 fun _ _ => rfl
  refine ⟨_, _, db', db'', hall, hfound, ?_, ?_⟩
  · rw [hnone, readAll_selectedRows h]
  · intro stage hstage hgrants
    rw [readAll_selectedRows h, List.filter_eq_nil_iff]
    intro a _
    simp [AssignmentQuery.selects, hstage, hgrants]

/-- In well-formed tables every assignment can be read, and every grant has a number for the
stage. -/
theorem hasAssignments_of_wellFormed (h : db.WellFormed) : db.HasAssignments where
  legible table _ := ⟨h.unreadable? table, fun s hs => absurd hs (h.scripts ▸ List.not_mem_nil)⟩
  assignments := h.sound.assignments
  groups row hrow := (h.stages row hrow).1
  stages row hrow := by
    obtain ⟨-, -, n, hn⟩ := h.stages row hrow
    exact ⟨n, .inl hn⟩

/-- Two assignments of a user, the second of them without a date; only the group of the first is
open at a stage. -/
def twoSeats : Database :=
  { empty with tables := [
    (Table.stageAssignments, [
      [("id", .text "sa-1"), ("submission_id", .text "sub-1"), ("user_group_id", .text "g-1"),
        ("user_id", .text "u-1"), ("date_assigned", .text "2024-01-01T00:00:00Z")],
      [("id", .text "sa-2"), ("submission_id", .text "sub-1"), ("user_group_id", .text "g-2"),
        ("user_id", .text "u-1"), ("date_assigned", .null)]]),
    (Table.userGroupStages, [[("user_group_id", .text "g-1"), ("stage_id", .int 1)]])] }

lemma twoSeats_hasAssignments : twoSeats.HasAssignments where
  legible _ _ := ⟨rfl, nofun⟩
  assignments row hrow := by
    have hnames : ∀ {name : String}, name ≠ "" → (Value.text name).Names := fun h => ⟨_, rfl, h⟩
    have hdate : Record.moment (.text "2024-01-01T00:00:00Z") = .accepted _ := rfl
    rcases List.mem_pair.1 hrow with rfl | rfl
    · exact isAssignment_of_names (hnames (by decide)) (hnames (by decide)) (hnames (by decide))
        (.inr ⟨_, hdate⟩)
    · exact isAssignment_of_names (hnames (by decide)) (hnames (by decide)) (hnames (by decide))
        (.inl rfl)
  groups row hrow := by
    obtain rfl := List.mem_singleton.1 hrow
    exact ⟨"g-1", rfl, by decide⟩
  stages row hrow := by
    obtain rfl := List.mem_singleton.1 hrow
    exact ⟨1, .inl rfl⟩

/-- The assignments of the user at a stage. -/
def ownAt (stage : Stage) : AssignmentQuery :=
  ⟨.text "sub-1", some stage, none, some (.text "u-1")⟩

lemma twoSeats_grantsStage (groupId : String) : twoSeats.grantsStage groupId .editing = false := by
  have hstage : Stage.ofValue? (.int 1) = some .intake := by decide
  have hrows : twoSeats.rows Table.userGroupStages =
      [[("user_group_id", .text "g-1"), ("stage_id", .int 1)]] := rfl
  simp [grantsStage, hrows, Fields.get, Fields.get?, hstage, Stage.intake]

/-- Both assignments are listed, the one without a date first; at intake only the other one is, and
at a stage that no grant gives there is none. -/
theorem twoSeats_selected : twoSeats.HasAssignments ∧ ∃ (all found : List StageAssignment)
    (t u v : Database),
    Session.run (session (.fails .badValue) (allOf (.text "sub-1"))) twoSeats = (.ok all, t) ∧
    Session.run (session (.fails .badValue) (.assignments (ownAt .intake))) twoSeats =
      (.ok found, u) ∧
    found = all.filter ((ownAt .intake).selects twoSeats) ∧
    all.map (·.id) = [some "sa-2", some "sa-1"] ∧ found.map (·.id) = [some "sa-1"] ∧
    Session.run (session (.fails .badValue) (.assignments (ownAt .editing))) twoSeats =
      (.ok [], v) := by
  obtain ⟨all, found, t, u, hall, hfound, hselected, -⟩ :=
    assignments_selected twoSeats_hasAssignments (.fails .badValue) (ownAt .intake)
  obtain ⟨-, none, -, v, -, hnone, -, hempty⟩ :=
    assignments_selected twoSeats_hasAssignments (.fails .badValue) (ownAt .editing)
  rw [hempty .editing rfl twoSeats_grantsStage] at hnone
  have hids : all.map (·.id) = [some "sa-2", some "sa-1"] := by
    have heval : (Session.run (session (.fails .badValue) (allOf (.text "sub-1")))
        twoSeats).1.toOption.map (·.map (·.id)) = some [some "sa-2", some "sa-1"] := by
      decide +kernel
    change Session.run (session (.fails .badValue) (allOf (.text "sub-1"))) twoSeats = _ at hall
    rw [hall] at heval
    exact Option.some.inj heval
  have hown : found.map (·.id) = [some "sa-1"] := by
    have heval : (Session.run (session (.fails .badValue) (.assignments (ownAt .intake)))
        twoSeats).1.toOption.map (·.map (·.id)) = some [some "sa-1"] := by
      decide +kernel
    rw [hfound] at heval
    exact Option.some.inj heval
  exact ⟨twoSeats_hasAssignments, all, found, t, u, v, hall, hfound, hselected, hids, hown, hnone⟩

end Store
end EditorialDesk
