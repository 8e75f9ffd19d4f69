import EditorialDesk.Proofs.Database.History
import EditorialDesk.UserGroup
import Mathlib.Data.List.Nodup

/-!
# Admission to seats

Rows that ask for seats are entered one after the other; where a seat is taken the row is
turned away. The table only grows, holds in the end the seats that it held and those
asked for, and no seat twice. A table that is part of the way is brought to the same end
by asking for all seats again.
-/
namespace EditorialDesk

def Seat.labels (x : Seat) : List String := [x.submissionId, x.groupId, x.userId]

lemma Seat.labels_injective {x y : Seat} (h : x.labels = y.labels) : x = y := by
  obtain ⟨s, g, u⟩ := x
  obtain ⟨s', g', u'⟩ := y
  simp only [labels, List.cons.injEq, and_true] at h
  obtain ⟨rfl, rfl, rfl⟩ := h
  rfl

namespace Database

variable {rows mid wanted : List Row} {x : List String}

/-- The seats that rows take, as labels. -/
def seats (rows : List Row) : List (List String) := rows.map seatLabels

@[simp] lemma seats_append (rows rows' : List Row) :
    seats (rows ++ rows') = seats rows ++ seats rows' :=
  List.map_append

lemma seats_subset (h : rows <+: mid) : seats rows ⊆ seats mid :=
  List.map_subset _ h.subset

lemma get?_identified {column : String} (hc : column ≠ "id") (table : String) (n : Nat)
    (row : Row) : (identified table n row).get? column = row.get? column := by
  unfold identified Fields.setDefault
  split
  · rfl
  · have hid : ("id" == column) = false := by simpa using hc.symm
    simp [Fields.get?, List.find?_append, hid]

@[simp] lemma label_identified {column : String} (hc : column ≠ "id") (table : String) (n : Nat)
    (row : Row) : (identified table n row).label column = row.label column := by
  unfold Fields.label Fields.get
  rw [get?_identified hc]

@[simp] lemma seatLabels_identified (table : String) (n : Nat) (row : Row) :
    seatLabels (identified table n row) = seatLabels row := by
  simp [seatLabels]

/-- Enters a row unless its seat is taken. -/
def enterOne (rows : List Row) (row : Row) : List Row :=
  if seatLabels row ∈ seats rows then rows
  else rows ++ [identified Table.stageAssignments rows.length row]

/-- Enters rows one after the other. -/
def enter (rows wanted : List Row) : List Row := wanted.foldl enterOne rows

/-- To insert an assignment is to ask for its seat. -/
lemma effect_insert_assignment (orphans : List Value) (rows : List Row) (row : Row) :
    effect orphans rows (.insert Table.stageAssignments row) = enterOne rows row := by
  have hne : (Table.stageAssignments == Table.notifications) = false := by decide
  have hany : rows.any (seatLabels · == seatLabels row) = true ↔ seatLabels row ∈ seats rows := by
    simp [seats]
  simp only [effect, refuses, enterOne, beq_self_eq_true, Bool.true_and, hne, Bool.false_and,
    Bool.or_false, hany]

lemma enter_append (rows wanted more : List Row) :
    enter rows (wanted ++ more) = enter (enter rows wanted) more :=
  List.foldl_append

lemma prefix_enterOne (rows : List Row) (row : Row) : rows <+: enterOne rows row := by
  unfold enterOne
  split
  · exact List.prefix_rfl
  · exact List.prefix_append _ _

lemma prefix_enter (rows wanted : List Row) : rows <+: enter rows wanted := by
  induction wanted generalizing rows with
  | nil => exact List.prefix_rfl
  | cons row rest ih => exact (prefix_enterOne rows row).trans (ih _)

lemma mem_seats_enterOne {row : Row} :
    x ∈ seats (enterOne rows row) ↔ x ∈ seats rows ∨ x = seatLabels row := by
  unfold enterOne
  split
  · next h =>
    constructor
    · exact .inl
    · rintro (hx | rfl)
      · exact hx
      · exact h
  · simp [seats]

/-- The seats taken in the end are those that were taken and those asked for. -/
theorem mem_seats_enter : x ∈ seats (enter rows wanted) ↔ x ∈ seats rows ∨ x ∈ seats wanted := by
  induction wanted generalizing rows with
  | nil => simp [enter, seats]
  | cons row rest ih =>
    change x ∈ seats (enter (enterOne rows row) rest) ↔ _
    rw [ih, mem_seats_enterOne, or_assoc]
    simp [seats]

lemma nodup_seats_enterOne (h : (seats rows).Nodup) (row : Row) :
    (seats (enterOne rows row)).Nodup := by
  unfold enterOne
  split
  · exact h
  · next hrow =>
    rw [seats_append]
    refine h.append (by simp [seats]) ?_
    simpa [seats] using hrow

/-- No seat is taken twice that was not before. -/
theorem nodup_seats_enter (h : (seats rows).Nodup) (wanted : List Row) :
    (seats (enter rows wanted)).Nodup := by
  induction wanted generalizing rows with
  | nil => exact h
  | cons row rest ih => exact ih (nodup_seats_enterOne h row)

/-- The rows that are entered, each in its place. -/
def added (rows : List Row) : List Row → List Row
  | [] => []
  | row :: rest =>
    if seatLabels row ∈ seats rows then added rows rest
    else
      let stored := identified Table.stageAssignments rows.length row
      stored :: added (rows ++ [stored]) rest

theorem enter_eq_append (rows wanted : List Row) :
    enter rows wanted = rows ++ added rows wanted := by
  induction wanted generalizing rows with
  | nil => exact (List.append_nil rows).symm
  | cons row rest ih =>
    change enter (enterOne rows row) rest = _
    rw [ih, added, enterOne]
    split
    · rfl
    · rw [List.append_assoc]
      rfl

/-- The seats that are newly taken are all different, and none of them was taken before. -/
theorem nodup_seats_added (rows wanted : List Row) :
    (seats (added rows wanted)).Nodup ∧ ∀ x ∈ seats (added rows wanted), x ∉ seats rows := by
  induction wanted generalizing rows with
  | nil => exact ⟨List.nodup_nil, fun x hx => absurd hx List.not_mem_nil⟩
  | cons row rest ih =>
    unfold added
    split
    · exact ih rows
    · next hrow =>
      obtain ⟨hnodup, hnew⟩ := ih (rows ++ [identified Table.stageAssignments rows.length row])
      have hseats : seats (rows ++ [identified Table.stageAssignments rows.length row]) =
          seats rows ++ [seatLabels row] := by simp [seats]
      rw [hseats] at hnew
      have hcons : seats (identified Table.stageAssignments rows.length row ::
          added (rows ++ [identified Table.stageAssignments rows.length row]) rest) =
            seatLabels row :: seats (added (rows ++
              [identified Table.stageAssignments rows.length row]) rest) := by simp [seats]
      rw [hcons]
      constructor
      · refine List.nodup_cons.2 ⟨fun hx => ?_, hnodup⟩
        exact hnew _ hx (List.mem_append_right _ (List.mem_singleton.2 rfl))
      · intro x hx
        rcases List.mem_cons.1 hx with rfl | hx
        · exact hrow
        · exact fun hold => hnew x hx (List.mem_append_left _ hold)

/-- The seats that are newly taken are those that were asked for and free. -/
lemma mem_seats_added : x ∈ seats (added rows wanted) ↔ x ∉ seats rows ∧ x ∈ seats wanted := by
  have hnew := (nodup_seats_added rows wanted).2 x
  have hall : x ∈ seats (enter rows wanted) ↔ _ := mem_seats_enter
  rw [enter_eq_append, seats_append, List.mem_append] at hall
  constructor
  · intro hx
    have hfree := hnew hx
    exact ⟨hfree, (hall.1 (.inr hx)).resolve_left hfree⟩
  · intro ⟨hfree, hx⟩
    exact (hall.2 (.inr hx)).resolve_left hfree

lemma seats_added_sublist (rows wanted : List Row) :
    (seats (added rows wanted)).Sublist (seats wanted) := by
  induction wanted generalizing rows with
  | nil => exact List.Sublist.slnil
  | cons row rest ih =>
    unfold added
    split
    · exact (ih rows).cons _
    · have hseats := (ih (rows ++ [identified Table.stageAssignments rows.length row])).cons_cons
        (seatLabels row)
      simpa [seats] using hseats

/-- A row that is entered is one that was asked for, with the identity of its place. -/
lemma getElem_added (rows wanted : List Row) (i : Nat) (hi : i < (added rows wanted).length) :
    ∃ row ∈ wanted, (added rows wanted)[i] =
      identified Table.stageAssignments (rows.length + i) row := by
  induction wanted generalizing rows i with
  | nil => exact absurd hi (Nat.not_lt_zero i)
  | cons row rest ih =>
    have hcons : ∀ {x : Row}, (∃ r ∈ rest, x = identified Table.stageAssignments
        (rows.length + i) r) → ∃ r ∈ row :: rest, x = identified Table.stageAssignments
          (rows.length + i) r := fun ⟨r, hr, hx⟩ => ⟨r, List.mem_cons_of_mem row hr, hx⟩
    by_cases hrow : seatLabels row ∈ seats rows
    · have hadded : added rows (row :: rest) = added rows rest := if_pos hrow
      simp only [hadded] at hi ⊢
      exact hcons (ih rows i hi)
    · have hadded : added rows (row :: rest) =
          identified Table.stageAssignments rows.length row ::
            added (rows ++ [identified Table.stageAssignments rows.length row]) rest := if_neg hrow
      simp only [hadded] at hi ⊢
      cases i with
      | zero => exact ⟨row, List.mem_cons_self, rfl⟩
      | succ i =>
        obtain ⟨r, hr, hx⟩ := ih (rows ++ [identified Table.stageAssignments rows.length row]) i
          (by simpa using hi)
        refine ⟨r, List.mem_cons_of_mem row hr, ?_⟩
        rw [List.getElem_cons_succ, hx, List.length_append, List.length_singleton]
        congr 1
        omega

lemma enterOne_of_mem {row : Row} (h : seatLabels row ∈ seats rows) : enterOne rows row = rows :=
  if_pos h

lemma enter_of_forall_mem (h : ∀ row ∈ wanted, seatLabels row ∈ seats rows) :
    enter rows wanted = rows := by
  induction wanted with
  | nil => rfl
  | cons row rest ih =>
    change enter (enterOne rows row) rest = rows
    rw [enterOne_of_mem (h row List.mem_cons_self)]
    exact ih fun r hr => h r (List.mem_cons_of_mem row hr)

/-- A table on the way from a first one to its end comes to the same end. -/
theorem enter_resume (hrows : rows <+: mid) (hmid : mid <+: enter rows wanted) :
    enter mid wanted = enter rows wanted := by
  induction wanted generalizing rows with
  | nil => exact hmid.eq_of_length_le hrows.length_le
  | cons row rest ih =>
    change enter (enterOne mid row) rest = enter (enterOne rows row) rest
    change mid <+: enter (enterOne rows row) rest at hmid
    by_cases hrow : seatLabels row ∈ seats rows
    · rw [enterOne_of_mem hrow] at hmid ⊢
      rw [enterOne_of_mem (seats_subset hrows hrow)]
      exact ih hrows hmid
    · by_cases hlen : mid.length ≤ rows.length
      · rw [hrows.eq_of_length_le hlen]
      · have hone : enterOne rows row <+: mid := by
          refine List.prefix_of_prefix_length_le (prefix_enter _ rest) hmid ?_
          simp only [enterOne, if_neg hrow, List.length_append, List.length_singleton]
          omega
        have hmem : seatLabels row ∈ seats mid :=
          seats_subset hone (mem_seats_enterOne.2 (.inr rfl))
        rw [enterOne_of_mem hmem]
        exact ih hone hmid

end Database

/-- The row that a query asks to be entered as an assignment. -/
def Deed.asked? (d : Deed) : Option Row :=
  match d.call with
  | .insert table row => if table = Table.stageAssignments then some row else none
  | _ => none

/-- The row that a query stored in a table. -/
def Deed.storedIn? (table : String) (d : Deed) : Option Row :=
  if d.call.table = table then d.stored else none

namespace Database

variable {db db' : Database} {ds : List Deed}

/-- The assignments in the end are those that were, and those that the deeds ask for. -/
theorem Leads.assignments_eq (h : Leads db ds db') (hdb : db.Plain) :
    db'.rows Table.stageAssignments =
      enter (db.rows Table.stageAssignments) (ds.filterMap Deed.asked?) := by
  rw [h.rows_eq hdb]
  have hds := h.isOfIntake
  generalize db.rows Table.stageAssignments = rows
  clear h
  induction ds generalizing rows with
  | nil => rfl
  | cons d rest ih =>
    have hrest := fun rows => ih (fun e he => hds e (List.mem_cons_of_mem d he)) rows
    have hd := hds d List.mem_cons_self
    simp only [replay, List.foldl_cons] at hrest ⊢
    rw [hrest]
    obtain ⟨c, stored⟩ := d
    cases c with
    | select t filters order => simp [Deed.asked?, effect, List.filterMap_cons]
    | insert t row =>
      by_cases ht : t = Table.stageAssignments
      · subst ht
        simp only [Call.table, if_true, effect_insert_assignment, List.filterMap_cons, Deed.asked?]
        rfl
      · simp [Deed.asked?, Call.table, ht, Ne.symm ht]
    | update t patch filters =>
      obtain ⟨rfl, -⟩ := hd
      rfl
    | delete t filters =>
      obtain rfl := hd
      rfl

/-- A table that only gets rows has in the end those that it had and those that were stored. -/
theorem Leads.rows_append (h : Leads db ds db') (hdb : db.Plain) {table : String}
    (hn : table ≠ Table.notifications) (hs : table ≠ Table.submissions) :
    db'.rows table = db.rows table ++ ds.filterMap (Deed.storedIn? table) := by
  induction h with
  | refl db => simp
  | @step db db' c ds hc _ ih =>
    have hl := hdb.later_perform hc
    rw [ih (hl.plain hdb), List.filterMap_append, ← List.append_assoc]
    congr 1
    cases c with
    | select t filters order => simp [hdb.perform_select, deeds]
    | insert t row =>
      have hdeeds : db.deeds (.insert t row) =
          [⟨.insert t row, storedBy (.insert t row) (db.perform (.insert t row)).1⟩] := rfl
      rw [hdeeds, hdb.perform_insert hc.isNamed]
      by_cases hr : refuses db.orphans (db.rows t) t row = true
      · simp [hr, storedBy, Deed.storedIn?]
      · by_cases ht : table = t
        · simp [hr, storedBy, Deed.storedIn?, Call.table, inserted, ht]
        · simp [hr, storedBy, Deed.storedIn?, Call.table, inserted, ht, Ne.symm ht]
    | update t patch filters =>
      obtain ⟨rfl, -⟩ := hc
      simp [hdb.perform_update, deeds, Deed.storedIn?, Call.table, hs, Ne.symm hs]
    | delete t filters =>
      obtain rfl := hc
      simp [hdb.perform_delete, deeds, Deed.storedIn?, Call.table, hn, Ne.symm hn]
  | failed _ ih => exact ih (hdb.note _)

end Database
end EditorialDesk
