import EditorialDesk.Database.Query
import Mathlib.Data.List.Sort
import Mathlib.Data.String.Basic

/-!
# Rows in order

The order of rows is a total preorder, and ordering rows sorts them by it.
-/
namespace EditorialDesk.Database

lemma notAfter_cons {x y : String} {xs ys : List String} :
    notAfter (x :: xs) (y :: ys) = true ↔ x < y ∨ x = y ∧ notAfter xs ys = true := by
  rw [notAfter]
  by_cases h : x = y
  · simp [h]
  · simp [h]

lemma notAfter_total (a b : List String) : notAfter a b = true ∨ notAfter b a = true := by
  induction a generalizing b with
  | nil => exact .inl rfl
  | cons x xs ih =>
    cases b with
    | nil => exact .inr rfl
    | cons y ys =>
      rw [notAfter_cons, notAfter_cons]
      rcases lt_trichotomy x y with h | rfl | h
      · exact .inl (.inl h)
      · exact (ih ys).imp (fun h => .inr ⟨rfl, h⟩) fun h => .inr ⟨rfl, h⟩
      · exact .inr (.inl h)

lemma notAfter_trans {a b c : List String} (hab : notAfter a b = true) (hbc : notAfter b c = true) :
    notAfter a c = true := by
  induction a generalizing b c with
  | nil => rfl
  | cons x xs ih =>
    cases b with
    | nil => exact absurd hab Bool.false_ne_true
    | cons y ys =>
      cases c with
      | nil => exact absurd hbc Bool.false_ne_true
      | cons z zs =>
        rw [notAfter_cons] at hab hbc ⊢
        rcases hab with hab | ⟨rfl, hab⟩
        · exact .inl (hbc.elim hab.trans fun h => h.1 ▸ hab)
        · exact hbc.imp_right fun h => ⟨h.1, ih hab h.2⟩

/-- One row may stand before another in the order of some columns. -/
def RowLe (order : List String) (row row' : Row) : Prop :=
  notAfter (sortKey order row) (sortKey order row') = true

instance (order : List String) : DecidableRel (RowLe order) :=
  fun _ _ => inferInstanceAs (Decidable (_ = true))

instance (order : List String) : IsTrans Row (RowLe order) := ⟨fun _ _ _ => notAfter_trans⟩

instance (order : List String) : Std.Total (RowLe order) := ⟨fun _ _ => notAfter_total _ _⟩

lemma place_eq_orderedInsert (order : List String) (row : Row) (rows : List Row) :
    place order row rows = rows.orderedInsert (RowLe order) row := by
  induction rows with
  | nil => rfl
  | cons r rest ih =>
    rw [place, List.orderedInsert_cons, ih]
    rfl

lemma arrange_eq_insertionSort (order : List String) (rows : List Row) :
    arrange order rows = rows.insertionSort (RowLe order) := by
  induction rows with
  | nil => rfl
  | cons row rest ih =>
    rw [List.insertionSort_cons, ← ih, ← place_eq_orderedInsert]
    rfl

theorem pairwise_arrange (order : List String) (rows : List Row) :
    (arrange order rows).Pairwise (RowLe order) := by
  rw [arrange_eq_insertionSort]
  exact List.pairwise_insertionSort _ _

lemma place_of_le {order : List String} {row : Row} {rows : List Row}
    (h : ∀ r ∈ rows, RowLe order row r) : place order row rows = row :: rows := by
  cases rows with
  | nil => rfl
  | cons r rest =>
    have hr : notAfter (sortKey order row) (sortKey order r) = true := h r List.mem_cons_self
    rw [place, if_pos hr]

/-- To leave out rows of ordered ones and then to put in a row is to put it in first. -/
lemma filter_place (p : Row → Bool) {order : List String} (row : Row) {rows : List Row}
    (hrows : rows.Pairwise (RowLe order)) : (place order row rows).filter p =
      if p row then place order row (rows.filter p) else rows.filter p := by
  induction rows with
  | nil => simp [place, List.filter_cons]
  | cons r rest ih =>
    rw [List.pairwise_cons] at hrows
    by_cases hr : notAfter (sortKey order row) (sortKey order r) = true
    · have hall : ∀ x ∈ (r :: rest).filter p, RowLe order row x := by
        intro x hx
        rcases List.mem_cons.1 (List.mem_filter.1 hx).1 with rfl | hx
        · exact hr
        · exact notAfter_trans hr (hrows.1 x hx)
      rw [place, if_pos hr, List.filter_cons, place_of_le hall]
    · rw [place, if_neg hr, List.filter_cons, List.filter_cons, ih hrows.2]
      by_cases hp : p r = true
      · by_cases hrow : p row = true
        · simp only [hp, hrow, if_true]
          rw [place, if_neg hr]
        · simp [hp, hrow]
      · simp [hp]

/-- Rows can be left out before they are ordered or after. -/
theorem filter_arrange (p : Row → Bool) (order : List String) (rows : List Row) :
    (arrange order rows).filter p = arrange order (rows.filter p) := by
  induction rows with
  | nil => rfl
  | cons row rest ih =>
    have hcons : ∀ rows, arrange order (row :: rows) = place order row (arrange order rows) :=
      fun _ => rfl
    rw [hcons, filter_place p row (pairwise_arrange order rest), ih, List.filter_cons]
    split
    · rw [hcons]
    · rfl

end EditorialDesk.Database
