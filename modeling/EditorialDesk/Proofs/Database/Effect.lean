import EditorialDesk.Database.Perform
import EditorialDesk.Proofs.Text.Words

/-!
# What queries do to the rows

A plain database holds rows in all its tables, keeps seats unique, answers inserts with
what they stored, and has no failure scripted. There every query either violates a
constraint or takes effect. The lemmas say which rows a query finds, what it answers and
what it leaves in its table; all other tables stay as they are.
-/
namespace EditorialDesk

/-- A database of which nothing but its constraints stands in a query's way. -/
structure Database.Plain (db : Database) : Prop where
  scripts : db.scripts = []
  unreadable : db.unreadable = []
  replies : db.replies = .object []
  unique : db.unique = true

namespace Database

variable {db : Database}

@[simp] theorem admits_equals {column wanted : String} {row : Row} :
    (Filter.equals column wanted).admits row = true ↔ row.label column = wanted := beq_iff_eq

@[simp] theorem admits_among {column : String} {wanted : List String} {row : Row} :
    (Filter.among column wanted).admits row = true ↔ row.label column ∈ wanted :=
  List.contains_iff_mem

@[simp] theorem meets_nil (row : Row) : meets [] row = true := rfl

@[simp] theorem meets_cons {f : Filter} {filters : List Filter} {row : Row} :
    meets (f :: filters) row = true ↔ f.admits row = true ∧ meets filters row = true := by
  rw [meets, List.all_cons, Bool.and_eq_true]
  rfl

/-- The rows of a table that meet some conditions, in the order of some columns. -/
def found (db : Database) (table : String) (filters : List Filter) (order : List String) :
    List Row :=
  arrange order ((db.rows table).filter (meets filters))

theorem mem_found {table : String} {filters : List Filter} {order : List String} {row : Row} :
    row ∈ db.found table filters order ↔ row ∈ db.rows table ∧ meets filters row = true := by
  rw [found, (arrange_perm order _).mem_iff, List.mem_filter]

@[simp] theorem rows_note (c : Call) (table : String) : (db.note c).rows table = db.rows table :=
  rfl

@[simp] theorem rows_setRows (table other : String) (rows : List Row) :
    (db.setRows table rows).rows other = if other = table then rows else db.rows other := by
  by_cases h : other = table
  · subst h
    simp [rows_setRows_self]
  · simp [rows_setRows_of_ne db h, h]

theorem Plain.unreadable? (h : db.Plain) (table : String) : db.unreadable? table = none := by
  simp [Database.unreadable?, h.unreadable, Fields.get?]

theorem Plain.of_frame (h : db.Plain) {db' : Database}
    (hframe : ({ db with tables := db'.tables, calls := db'.calls } : Database) = db') :
    db'.Plain := by
  rw [← hframe]
  exact ⟨h.1, h.2, h.3, h.4⟩

theorem Plain.note (h : db.Plain) (c : Call) : (db.note c).Plain := h.of_frame rfl

/-- On a plain database a query is noted, and takes effect if it violates nothing. -/
theorem Plain.perform_eq (h : db.Plain) (c : Call) (hc : db.obstacle? c = .ok none) :
    db.perform c = (db.note c).applyRows c := by
  have hself : ({ db with scripts := [] } : Database) = db := by rw [← h.scripts]
  simp only [perform, h.scripts, trigger, hself, hc, apply, (h.note c).unreadable? c.table]

theorem Plain.perform_select (h : db.Plain) (table : String) (filters : List Filter)
    (order : List String) :
    db.perform (.select table filters order) =
      (.ok (db.found table filters order), db.note (.select table filters order)) :=
  h.perform_eq _ rfl

theorem Plain.reply_eq (h : db.Plain) (table : String) (row : Row) :
    db.reply table row = .ok (.list [.object row]) := by
  simp [reply, h.replies, Value.part?, Fields.get?, bind, Except.bind, pure, Except.pure]

/-- Whether a constraint stands in the way of an insert into a table that holds some rows. -/
def refuses (orphans : List Value) (rows : List Row) (table : String) (row : Row) : Bool :=
  table == Table.stageAssignments && rows.any (seatLabels · == seatLabels row) ||
    table == Table.notifications && orphans.any (·.alike (row.get "user_id"))

/-- The error of an insert that is refused. -/
def refusal (table : String) : DatabaseError :=
  if table == Table.stageAssignments then seatTaken else unknownUser

/-- Only a notification without a possible user cannot be checked. -/
def IsNamed : Call → Prop
  | .insert table row => table = Table.notifications → (row.get "user_id").isName = true
  | _ => True

theorem Plain.violation?_eq (h : db.Plain) {table : String} {row : Row}
    (hrow : IsNamed (.insert table row)) :
    db.violation? table row = .ok
      (if refuses db.orphans (db.rows table) table row then some (refusal table) else none) := by
  have hne : Table.notifications ≠ Table.stageAssignments := by decide
  by_cases hs : table = Table.stageAssignments
  · subst hs
    simp [violation?, h.unique, takesSeat, h.unreadable? Table.stageAssignments, refuses, refusal,
      hne.symm, bind, Except.bind, pure, Except.pure]
  · by_cases hn : table = Table.notifications
    · subst hn
      simp [violation?, hne, hrow rfl, refuses, refusal, pure, Except.pure]
    · simp [violation?, hs, hn, refuses, pure, Except.pure]

/-- What an insert leaves in a plain database that does not refuse it. -/
def inserted (db : Database) (table : String) (row : Row) : Database :=
  (db.note (.insert table row)).setRows table
    (db.rows table ++ [identified table (db.rows table).length row])

theorem Plain.perform_insert (h : db.Plain) {table : String} {row : Row}
    (hrow : IsNamed (.insert table row)) :
    db.perform (.insert table row) =
      if refuses db.orphans (db.rows table) table row then
        (.error (.rejected (refusal table)), db.note (.insert table row))
      else
        (.ok (.list [.object (identified table (db.rows table).length row)]),
          db.inserted table row) := by
  have hself : ({ db with scripts := [] } : Database) = db := by rw [← h.scripts]
  have hv := h.violation?_eq hrow
  by_cases hr : refuses db.orphans (db.rows table) table row = true
  · rw [if_pos hr] at hv ⊢
    simp only [perform, h.scripts, trigger, hself, obstacle?, hv]
  · rw [if_neg hr] at hv ⊢
    rw [h.perform_eq (.insert table row) hv, applyRows, (h.note _).reply_eq]
    rfl

theorem Plain.perform_update (h : db.Plain) (table : String) (patch : Row)
    (filters : List Filter) :
    db.perform (.update table patch filters) =
      (.ok (((db.rows table).filter (meets filters)).map (·.merge patch)),
        (db.note (.update table patch filters)).setRows table
          ((db.rows table).map fun row => if meets filters row then row.merge patch else row)) :=
  h.perform_eq _ rfl

theorem Plain.perform_delete (h : db.Plain) (table : String) (filters : List Filter) :
    db.perform (.delete table filters) =
      (.ok ((db.rows table).filter (meets filters)),
        (db.note (.delete table filters)).setRows table
          ((db.rows table).filter fun row =>
            !((db.rows table).filter (meets filters)).any (Value.alikeRows row))) :=
  h.perform_eq _ rfl

/-- What a query makes of the rows of its table. -/
def effect (orphans : List Value) (rows : List Row) : Call → List Row
  | .select .. => rows
  | .insert table row =>
    if refuses orphans rows table row then rows else rows ++ [identified table rows.length row]
  | .update _ patch filters =>
    rows.map fun row => if meets filters row then row.merge patch else row
  | .delete _ filters =>
    rows.filter fun row => !(rows.filter (meets filters)).any (Value.alikeRows row)

/-- A query has its effect on its table and none on the others. -/
theorem Plain.rows_perform (h : db.Plain) {c : Call} (hc : IsNamed c) (table : String) :
    (db.perform c).2.rows table =
      if table = c.table then effect db.orphans (db.rows table) c else db.rows table := by
  cases c with
  | select t filters order =>
    rw [h.perform_select]
    simp [effect]
  | insert t row =>
    rw [h.perform_insert hc]
    by_cases hr : refuses db.orphans (db.rows t) t row = true
    · by_cases ht : table = t <;> simp [effect, Call.table, hr, ht]
    · by_cases ht : table = t <;> simp [effect, inserted, Call.table, hr, ht]
  | update t patch filters =>
    rw [h.perform_update]
    by_cases ht : table = t <;> simp [effect, Call.table, ht]
  | delete t filters =>
    rw [h.perform_delete]
    by_cases ht : table = t <;> simp [effect, Call.table, ht]

theorem Plain.perform_frame (h : db.Plain) {c : Call} (hc : IsNamed c) :
    ({ db with tables := (db.perform c).2.tables, calls := (db.perform c).2.calls } : Database) =
      (db.perform c).2 := by
  cases c with
  | select t filters order => rw [h.perform_select]; rfl
  | insert t row => rw [h.perform_insert hc]; split <;> rfl
  | update t patch filters => rw [h.perform_update]; rfl
  | delete t filters => rw [h.perform_delete]; rfl

theorem isUniqueViolation_seatTaken : seatTaken.isUniqueViolation = true := by
  refine Text.holds_lower (Text.holds_append_left (Text.holds_append_left ?_)) (by decide)
  decide

/-- A user who does not exist is reported as an orphan. -/
theorem isOrphanUser_unknownUser : unknownUser.isOrphanUser = true := by
  have hcode : Text.holds (Text.lower unknownUser.code.labelOrEmpty) "23503" = true :=
    Text.holds_lower (by decide) (by decide)
  have hkey : Text.holds (Text.lower (unknownUser.message.labelOrEmpty ++ " " ++
      unknownUser.printed)) "foreign key" = true := by
    refine Text.holds_lower (Text.holds_append_left (Text.holds_append_left ?_)) (by decide)
    decide
  simp [DatabaseError.isOrphanUser, hcode, hkey]

end Database
end EditorialDesk
