import EditorialDesk.Proofs.Database.Arrangement

/-!
# Lists with items in between

A list within another that has more items of some kind anywhere between its own. What is
done with each list item by item, or with both lists of rows by putting them in order,
leaves it that way.
-/
namespace EditorialDesk.Store

open Database

/-- One list within another that has more items in between, all of some kind. -/
inductive Padded {α : Type} (extra : α → Prop) : List α → List α → Prop
  | nil : Padded extra [] []
  | both {x : α} {xs ys : List α} (rest : Padded extra xs ys) : Padded extra (x :: xs) (x :: ys)
  | more {y : α} {xs ys : List α} (hy : extra y) (rest : Padded extra xs ys) :
    Padded extra xs (y :: ys)

namespace Padded

variable {α : Type} {extra : α → Prop} {x : α} {xs ys : List α}

lemma mono (h : Padded extra xs ys) {extra' : α → Prop} (hextra : ∀ y, extra y → extra' y) :
    Padded extra' xs ys := by
  induction h with
  | nil => exact .nil
  | both _ ih => exact .both ih
  | more hy _ ih => exact .more (hextra _ hy) ih

lemma of_forall (h : ∀ y ∈ ys, extra y) : Padded extra [] ys := by
  induction ys with
  | nil => exact .nil
  | cons y rest ih =>
    exact .more (h y List.mem_cons_self) (ih fun z hz => h z (List.mem_cons_of_mem y hz))

lemma append_right (h : ∀ y ∈ ys, extra y) : Padded extra xs (xs ++ ys) := by
  induction xs with
  | nil => exact of_forall h
  | cons x rest ih => exact .both ih

lemma nil_left (h : Padded extra [] ys) : ∀ y ∈ ys, extra y := by
  induction ys with
  | nil => exact fun _ hy => absurd hy List.not_mem_nil
  | cons y rest ih =>
    cases h with
    | more hy hrest => exact List.forall_mem_cons.2 ⟨hy, ih hrest⟩

lemma cons_left (h : Padded extra (x :: xs) ys) :
    ∃ before after, ys = before ++ x :: after ∧ (∀ y ∈ before, extra y) ∧
      Padded extra xs after := by
  induction ys with
  | nil => cases h
  | cons y rest ih =>
    cases h with
    | both hrest => exact ⟨[], rest, rfl, fun _ hy => absurd hy List.not_mem_nil, hrest⟩
    | more hy hrest =>
      obtain ⟨before, after, rfl, hbefore, hafter⟩ := ih hrest
      exact ⟨y :: before, after, rfl, List.forall_mem_cons.2 ⟨hy, hbefore⟩, hafter⟩

lemma subset (h : Padded extra xs ys) : xs ⊆ ys := by
  induction h with
  | nil => exact List.Subset.refl _
  | both _ ih => exact List.cons_subset_cons _ ih
  | more _ _ ih => exact List.subset_cons_of_subset _ ih

lemma mem_or_extra (h : Padded extra xs ys) {y : α} (hy : y ∈ ys) : y ∈ xs ∨ extra y := by
  induction h with
  | nil => exact absurd hy List.not_mem_nil
  | both _ ih =>
    rcases List.mem_cons.1 hy with rfl | hy
    · exact .inl List.mem_cons_self
    · exact (ih hy).imp_left (List.mem_cons_of_mem _)
  | more hextra _ ih =>
    rcases List.mem_cons.1 hy with rfl | hy
    · exact .inr hextra
    · exact ih hy

/-- What passes a test is found in the same order where none of the more items passes it. -/
lemma filter_eq (h : Padded extra xs ys) {p : α → Bool} (hp : ∀ y, extra y → p y = false) :
    ys.filter p = xs.filter p := by
  induction h with
  | nil => rfl
  | both _ ih => rw [List.filter_cons, List.filter_cons, ih]
  | more hy _ ih => rw [List.filter_cons, hp _ hy, ih, if_neg Bool.false_ne_true]

variable {order : List String} {row : Row} {rows rows' : List Row} {kind : Row → Prop}

lemma place_more (h : Padded kind rows rows') (hrow : kind row) :
    Padded kind rows (place order row rows') := by
  induction h with
  | nil => exact .more hrow .nil
  | both rest ih =>
    rw [place]
    split
    · exact .more hrow (.both rest)
    · exact .both ih
  | more hy rest ih =>
    rw [place]
    split
    · exact .more hrow (.more hy rest)
    · exact .more hy ih

lemma place_both (h : Padded kind rows rows') (hrows' : rows'.Pairwise (RowLe order)) :
    Padded kind (place order row rows) (place order row rows') := by
  induction h with
  | nil => exact .both .nil
  | both rest ih =>
    simp only [place]
    split
    · exact .both (.both rest)
    · exact .both (ih (List.pairwise_cons.1 hrows').2)
  | @more y xs ys hy rest ih =>
    obtain ⟨hfirst, hothers⟩ := List.pairwise_cons.1 hrows'
    rw [place.eq_2]
    split
    · next hle =>
      have hall : ∀ r ∈ xs, RowLe order row r := fun r hr =>
        notAfter_trans hle (hfirst r (rest.subset hr))
      have hplace : place order row xs = row :: xs := by
        cases xs with
        | nil => rfl
        | cons r rest =>
          rw [place]
          exact if_pos (hall r List.mem_cons_self)
      rw [hplace]
      exact .both (.more hy rest)
    · exact .more hy (ih hothers)

/-- Rows keep their order if more of them are put in order. -/
lemma arrange (h : Padded kind rows rows') :
    Padded kind (arrange order rows) (arrange order rows') := by
  induction h with
  | nil => exact .nil
  | both _ ih => exact ih.place_both (pairwise_arrange order _)
  | more hy _ ih => exact ih.place_more hy

end Padded

lemma mapM_cons_eq_ok {α β ε : Type} {f : α → Except ε β} {x : α} {xs : List α} {bs : List β} :
    (x :: xs).mapM f = .ok bs ↔ ∃ b rest, f x = .ok b ∧ xs.mapM f = .ok rest ∧ b :: rest = bs := by
  rw [List.mapM_cons]
  cases f x with
  | error e => simp [bind, Except.bind]
  | ok b => cases xs.mapM f <;> simp [bind, Except.bind, pure, Except.pure]

lemma exists_of_mem_mapM {α β ε : Type} {f : α → Except ε β} {xs : List α} {bs : List β}
    (h : xs.mapM f = .ok bs) {b : β} (hb : b ∈ bs) : ∃ x ∈ xs, f x = .ok b := by
  induction xs generalizing bs with
  | nil =>
    cases h
    exact absurd hb List.not_mem_nil
  | cons x xs ih =>
    obtain ⟨b', rest, hx, hxs, rfl⟩ := mapM_cons_eq_ok.1 h
    rcases List.mem_cons.1 hb with rfl | hb
    · exact ⟨x, List.mem_cons_self, hx⟩
    · obtain ⟨y, hy, hfy⟩ := ih hxs hb
      exact ⟨y, List.mem_cons_of_mem x hy, hfy⟩

/-- What is read from rows is read from them if there are more, all of which can be read. -/
lemma Padded.mapM {α β ε : Type} {f : α → Except ε β} {extra : β → Prop} {xs ys : List α}
    {bs : List β} (h : Padded (fun y => ∃ b, f y = .ok b ∧ extra b) xs ys)
    (hxs : xs.mapM f = .ok bs) : ∃ bs', ys.mapM f = .ok bs' ∧ Padded extra bs bs' := by
  induction h generalizing bs with
  | nil =>
    cases hxs
    exact ⟨[], rfl, .nil⟩
  | both _ ih =>
    obtain ⟨b, rest, hx, hrest, rfl⟩ := mapM_cons_eq_ok.1 hxs
    obtain ⟨rest', hrest', hpadded⟩ := ih hrest
    exact ⟨b :: rest', mapM_cons_eq_ok.2 ⟨b, rest', hx, hrest', rfl⟩, .both hpadded⟩
  | more hy _ ih =>
    obtain ⟨b, hb, hextra⟩ := hy
    obtain ⟨rest', hrest', hpadded⟩ := ih hxs
    exact ⟨b :: rest', mapM_cons_eq_ok.2 ⟨b, rest', hb, hrest', rfl⟩, .more hextra hpadded⟩

end EditorialDesk.Store
