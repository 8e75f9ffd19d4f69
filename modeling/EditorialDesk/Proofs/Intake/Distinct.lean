import EditorialDesk.Intake.Request
import Mathlib.Data.List.Induction
import Mathlib.Data.List.Nodup

/-!
# Laws of first occurrences

A list without repeats can be built from its end as well: an item is added unless one
with its key is there. Items with one key have to be told apart by nothing else. Two
lists have the same firsts if behind any list they bring in the same new texts.
-/
namespace EditorialDesk

lemma pairwise_distinctBy {α : Type} (same : α → α → Bool) (xs : List α) :
    (distinctBy same xs).Pairwise fun a b => same a b = false := by
  induction xs with
  | nil => exact .nil
  | cons x rest ih =>
    refine List.pairwise_cons.2 ⟨fun y hy => ?_, ih.filter _⟩
    simpa using (List.mem_filter.1 hy).2

variable {α κ : Type} [DecidableEq κ]

/-- Keeps the first of all items that have one key. -/
def distinctOn (key : α → κ) (xs : List α) : List α := distinctBy (fun a b => key a == key b) xs

lemma distinct_eq_distinctOn (xs : List String) : distinct xs = distinctOn id xs := rfl

lemma distinctOn_cons (key : α → κ) (x : α) (xs : List α) :
    distinctOn key (x :: xs) = x :: (distinctOn key xs).filter fun y => !(key x == key y) := rfl

lemma distinctOn_sublist (key : α → κ) (xs : List α) : (distinctOn key xs).Sublist xs := by
  induction xs with
  | nil => exact List.Sublist.slnil
  | cons x rest ih => exact (List.filter_sublist.trans ih).cons_cons x

lemma mem_of_mem_distinctOn {key : α → κ} {x : α} {xs : List α} (h : x ∈ distinctOn key xs) :
    x ∈ xs :=
  (distinctOn_sublist key xs).subset h

/-- Every key stays. -/
lemma mem_map_distinctOn {key : α → κ} {k : κ} {xs : List α} :
    k ∈ (distinctOn key xs).map key ↔ k ∈ xs.map key := by
  induction xs with
  | nil => rfl
  | cons x rest ih =>
    rw [distinctOn_cons, List.map_cons, List.map_cons, List.mem_cons, List.mem_cons, ← ih]
    by_cases hk : k = key x
    · simp [hk]
    · constructor
      · rintro (h | h)
        · exact .inl h
        · obtain ⟨y, hy, rfl⟩ := List.mem_map.1 h
          exact .inr (List.mem_map_of_mem (List.mem_filter.1 hy).1)
      · rintro (h | h)
        · exact .inl h
        · obtain ⟨y, hy, rfl⟩ := List.mem_map.1 h
          refine .inr (List.mem_map_of_mem (List.mem_filter.2 ⟨hy, ?_⟩))
          simpa using Ne.symm hk

/-- At the end an item is added if its key is new. -/
theorem distinctOn_concat (key : α → κ) (xs : List α) (y : α) :
    distinctOn key (xs ++ [y]) =
      if key y ∈ xs.map key then distinctOn key xs else distinctOn key xs ++ [y] := by
  induction xs with
  | nil => rfl
  | cons x rest ih =>
    rw [List.cons_append, distinctOn_cons, distinctOn_cons, ih, List.map_cons]
    by_cases hx : key y = key x
    · have hmem : key y ∈ key x :: rest.map key := List.mem_cons.2 (.inl hx)
      rw [if_pos hmem]
      split
      · rfl
      · simp [List.filter_append, hx]
    · have hne : (key x == key y) = false := by simpa using Ne.symm hx
      have hmem : key y ∈ key x :: rest.map key ↔ key y ∈ rest.map key := by simp [hx]
      simp only [hmem]
      split
      · rfl
      · simp [List.filter_append, hne]

theorem distinct_concat (xs : List String) (y : String) :
    distinct (xs ++ [y]) = if y ∈ xs then distinct xs else distinct xs ++ [y] := by
  rw [distinct_eq_distinctOn, distinct_eq_distinctOn, distinctOn_concat]
  simp

lemma distinctOn_of_nodup {key : α → κ} {xs : List α} (h : (xs.map key).Nodup) :
    distinctOn key xs = xs := by
  induction xs with
  | nil => rfl
  | cons x rest ih =>
    rw [List.map_cons, List.nodup_cons] at h
    rw [distinctOn_cons, ih h.2, List.filter_eq_self.2]
    intro y hy
    have hne : key x ≠ key y := fun he => h.1 (he ▸ List.mem_map_of_mem hy)
    simpa using hne

lemma distinct_of_nodup {xs : List String} (h : xs.Nodup) : distinct xs = xs := by
  rw [distinct_eq_distinctOn, distinctOn_of_nodup (by rwa [List.map_id])]

lemma distinctNames_text (xs : List String) :
    distinctNames (xs.map .text) = .ok ((distinct xs).map .text) := by
  have hnames : (xs.map Value.text).mapM Fault.named = .ok (xs.map .text) := by
    induction xs with
    | nil => rfl
    | cons x rest ih =>
      rw [List.map_cons, List.mapM_cons, Fault.named_text, ih]
      rfl
  unfold distinctNames
  rw [hnames, ← distinctBy_alike_text]
  rfl

/-- Behind a list there come some items of another. -/
lemma distinctOn_append (key : α → κ) (xs ys : List α) :
    ∃ more, distinctOn key (xs ++ ys) = distinctOn key xs ++ more ∧ more ⊆ ys := by
  induction ys using List.reverseRecOn with
  | nil => exact ⟨[], by simp, List.nil_subset _⟩
  | append_singleton ys y ih =>
    obtain ⟨more, heq, hsub⟩ := ih
    have hsub' : more ⊆ ys ++ [y] := List.subset_append_of_subset_left _ hsub
    rw [← List.append_assoc, distinctOn_concat, heq]
    split
    · exact ⟨more, rfl, hsub'⟩
    · refine ⟨more ++ [y], List.append_assoc _ _ _, List.append_subset.2 ⟨hsub', ?_⟩⟩
      exact List.subset_append_right ys [y]

/-- Where items with one key are the same, only repeats are left out. -/
lemma mem_distinctOn {key : α → κ} {xs : List α}
    (hinj : ∀ x ∈ xs, ∀ y ∈ xs, key x = key y → x = y) {x : α} :
    x ∈ distinctOn key xs ↔ x ∈ xs := by
  refine ⟨mem_of_mem_distinctOn, fun hx => ?_⟩
  have hmem : key x ∈ (distinctOn key xs).map key := mem_map_distinctOn.2 (List.mem_map_of_mem hx)
  obtain ⟨y, hy, hkey⟩ := List.mem_map.1 hmem
  exact hinj y (mem_of_mem_distinctOn hy) x hx hkey ▸ hy

/-- Keys of items that are made from others tell them apart as their own keys do. -/
lemma distinctOn_map {β κ' : Type} [DecidableEq κ'] {f : β → α} {key : α → κ} {key' : β → κ'}
    (h : ∀ x y, key (f x) = key (f y) ↔ key' x = key' y) (xs : List β) :
    distinctOn key (xs.map f) = (distinctOn key' xs).map f := by
  induction xs with
  | nil => rfl
  | cons x rest ih =>
    have hkeys : (fun y => !(key (f x) == key (f y))) = fun y => !(key' x == key' y) := by
      funext y
      simp only [beq_eq_decide, h]
    rw [List.map_cons, distinctOn_cons, distinctOn_cons, ih, List.map_cons, List.filter_map]
    simp only [Function.comp_def, hkeys]

lemma nodup_map_distinctOn (key : α → κ) (xs : List α) : ((distinctOn key xs).map key).Nodup := by
  have hpairs := pairwise_distinctBy (fun a b => key a == key b) xs
  exact List.pairwise_map.2 (hpairs.imp fun hab => by simpa using hab)

/-- What is new behind a list depends on the first occurrences there. -/
lemma distinctOn_append_congr {key : α → κ} {xs ys : List α}
    (h : distinctOn key xs = distinctOn key ys) (zs : List α) :
    distinctOn key (xs ++ zs) = distinctOn key (ys ++ zs) := by
  induction zs using List.reverseRecOn with
  | nil => simpa using h
  | append_singleton zs z ih =>
    have hmem : key z ∈ (xs ++ zs).map key ↔ key z ∈ (ys ++ zs).map key := by
      rw [← mem_map_distinctOn, ih, mem_map_distinctOn]
    rw [← List.append_assoc, ← List.append_assoc, distinctOn_concat, distinctOn_concat, ih]
    simp only [hmem]

lemma distinct_append_congr {xs ys : List String} (h : distinct xs = distinct ys)
    (zs : List String) : distinct (xs ++ zs) = distinct (ys ++ zs) :=
  distinctOn_append_congr h zs

/-- Items whose keys have all come before bring in nothing. -/
lemma distinctOn_append_of_subset {key : α → κ} {xs ys : List α}
    (h : ∀ y ∈ ys, key y ∈ xs.map key) : distinctOn key (xs ++ ys) = distinctOn key xs := by
  induction ys using List.reverseRecOn with
  | nil => rw [List.append_nil]
  | append_singleton ys y ih =>
    have hkey : key y ∈ (xs ++ ys).map key := by
      rw [List.map_append]
      exact List.mem_append_left _ (h y (by simp))
    rw [← List.append_assoc, distinctOn_concat, if_pos hkey]
    exact ih fun z hz => h z (List.mem_append_left _ hz)

/-- Two lists bring in the same new texts, whatever stands in front of them. -/
def SameFirsts (xs ys : List String) : Prop :=
  ∀ before, distinct (before ++ xs) = distinct (before ++ ys)

namespace SameFirsts

variable {xs ys xs' ys' : List String}

lemma refl (xs : List String) : SameFirsts xs xs := fun _ => rfl

lemma append (h : SameFirsts xs ys) (h' : SameFirsts xs' ys') :
    SameFirsts (xs ++ xs') (ys ++ ys') := by
  intro before
  rw [← List.append_assoc, h' (before ++ xs), ← List.append_assoc]
  exact distinct_append_congr (h before) ys'

lemma trans {zs : List String} (h : SameFirsts xs ys) (h' : SameFirsts ys zs) : SameFirsts xs zs :=
  fun before => (h before).trans (h' before)

lemma flatMap {items : List α} {f g : α → List String}
    (h : ∀ x ∈ items, SameFirsts (f x) (g x)) :
    SameFirsts (items.flatMap f) (items.flatMap g) := by
  induction items with
  | nil => exact refl []
  | cons x rest ih =>
    rw [List.flatMap_cons, List.flatMap_cons]
    exact (h x List.mem_cons_self).append (ih fun y hy => h y (List.mem_cons_of_mem x hy))

lemma replicate (n : Nat) (x : String) : SameFirsts (List.replicate (n + 1) x) [x] := by
  intro before
  induction n with
  | zero => rfl
  | succ n ih =>
    rw [List.replicate_succ', ← List.append_assoc, distinct_concat, if_pos (by simp), ih]

/-- Where items with one key are the same, those that are left out bring in nothing. -/
lemma distinctOn {key : α → κ} {items : List α}
    (hinj : ∀ x ∈ items, ∀ y ∈ items, key x = key y → x = y) (keep : α → Bool) (f : α → String) :
    SameFirsts (((EditorialDesk.distinctOn key items).filter keep).map f)
      ((items.filter keep).map f) := by
  intro before
  induction items using List.reverseRecOn with
  | nil => rfl
  | append_singleton items y ih =>
    have hitems : ∀ x ∈ items, x ∈ items ++ [y] := fun x hx => List.mem_append_left _ hx
    have hbefore := ih fun x hx z hz => hinj x (hitems x hx) z (hitems z hz)
    rw [distinctOn_concat, List.filter_append (items), List.map_append, ← List.append_assoc]
    split
    · next hkey =>
      obtain ⟨x, hx, hxy⟩ := List.mem_map.1 hkey
      obtain rfl := hinj x (hitems x hx) y (List.mem_append_right _ List.mem_cons_self) hxy
      rw [hbefore]
      cases hkeep : keep x with
      | false => simp [hkeep]
      | true =>
        have hmem : f x ∈ before ++ (items.filter keep).map f :=
          List.mem_append_right _ (List.mem_map_of_mem (List.mem_filter.2 ⟨hx, hkeep⟩))
        have hlast : ([x].filter keep).map f = [f x] := by simp [hkeep]
        rw [hlast, distinct_concat, if_pos hmem]
    · rw [List.filter_append, List.map_append, ← List.append_assoc]
      exact distinct_append_congr hbefore _

end SameFirsts
end EditorialDesk
