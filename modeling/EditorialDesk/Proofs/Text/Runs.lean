import Mathlib.Data.List.Infix
import Mathlib.Tactic.Lemma

/-!
# Runs of characters

What is looked for in a text is a run of characters of some kind. It does not reach over
characters of which it has none, and those of no such kind can be replaced by any others
without a run being lost.
-/
namespace EditorialDesk.Text

variable {P : Char → Bool} {ds xs ys zs front back : List Char}

/-- A run does not reach into a front that has none of its characters. -/
lemma infix_of_infix_append (hne : ds ≠ []) (hfront : ∀ c ∈ front, c ∉ ds)
    (h : ds <:+: front ++ back) : ds <:+: back := by
  induction front with
  | nil => exact h
  | cons c rest ih =>
    rw [List.forall_mem_cons] at hfront
    rcases List.infix_cons_iff.1 h with h | h
    · obtain ⟨d, ds, rfl⟩ := List.exists_cons_of_ne_nil hne
      exact absurd (List.mem_cons.2 (.inl (List.cons_prefix_cons.1 h).1.symm)) hfront.1
    · exact ih hfront.2 h

/-- A run in front of or behind another character is in front of it or behind it. -/
lemma infix_append_cons_iff {c : Char} (hc : c ∉ ds) :
    ds <:+: xs ++ c :: ys ↔ ds <:+: xs ∨ ds <:+: ys := by
  constructor
  · intro h
    induction xs with
    | nil =>
      rw [List.nil_append, List.infix_cons_iff] at h
      refine h.imp (fun h => ?_) id
      cases ds with
      | nil => exact List.infix_rfl
      | cons d ds => exact absurd (List.mem_cons.2 (.inl (List.cons_prefix_cons.1 h).1.symm)) hc
    | cons x xs ih =>
      rw [List.cons_append, List.infix_cons_iff] at h
      rcases h with h | h
      · rcases List.prefix_or_prefix_of_prefix h (List.prefix_append (x :: xs) (c :: ys)) with
          hle | ⟨more, rfl⟩
        · exact .inl hle.isInfix
        · rw [← List.cons_append, List.prefix_append_right_inj] at h
          cases more with
          | nil => exact .inl (by simp)
          | cons d more =>
            rw [List.cons_prefix_cons] at h
            exact absurd (by simp [h.1]) hc
      · exact (ih h).imp (fun h => h.trans (List.suffix_cons x xs).isInfix) id
  · rintro (h | h)
    · exact h.trans (List.prefix_append _ _).isInfix
    · exact h.trans ((List.suffix_cons c ys).trans (List.suffix_append _ _)).isInfix

/-- Whatever run of a kind begins one list begins another, and whatever it holds the other holds. -/
structure Keeps (P : Char → Bool) (ys zs : List Char) : Prop where
  begins : ∀ ds, (∀ d ∈ ds, P d = true) → ds <+: ys → ds <+: zs
  holds : ∀ ds, (∀ d ∈ ds, P d = true) → ds ≠ [] → ds <:+: ys → ds <:+: zs

lemma keeps_refl (P : Char → Bool) (ys : List Char) : Keeps P ys ys :=
  ⟨fun _ _ h => h, fun _ _ _ h => h⟩

lemma Keeps.append (h : Keeps P ys zs) (xs : List Char) : Keeps P (xs ++ ys) (xs ++ zs) := by
  induction xs with
  | nil => exact h
  | cons x xs ih =>
    have hbegins : ∀ ds, (∀ d ∈ ds, P d = true) → ds <+: x :: (xs ++ ys) →
        ds <+: x :: (xs ++ zs) := by
      intro ds hds hi
      cases ds with
      | nil => exact List.nil_prefix
      | cons d ds =>
        rw [List.cons_prefix_cons] at hi ⊢
        exact ⟨hi.1, ih.begins ds (fun e he => hds e (List.mem_cons_of_mem d he)) hi.2⟩
    refine ⟨hbegins, fun ds hds hne hi => ?_⟩
    rw [List.cons_append, List.infix_cons_iff] at hi ⊢
    exact hi.imp (hbegins ds hds) (ih.holds ds hds hne)

/-- No run reaches into characters of another kind, so anything can take their place. -/
lemma Keeps.replace (h : Keeps P ys zs) (hne : front ≠ []) (hfront : ∀ d ∈ front, P d = false)
    (xs : List Char) : Keeps P (front ++ ys) (xs ++ zs) := by
  have hapart : ∀ {ds : List Char}, (∀ d ∈ ds, P d = true) → ∀ c ∈ front, c ∉ ds :=
    fun hds c hc hmem => Bool.false_ne_true ((hfront c hc).symm.trans (hds c hmem))
  constructor
  · intro ds hds hi
    obtain ⟨c, rest, rfl⟩ := List.exists_cons_of_ne_nil hne
    cases ds with
    | nil => exact List.nil_prefix
    | cons d ds =>
      have hhead := (List.cons_prefix_cons.1 hi).1
      exact absurd (List.mem_cons.2 (.inl hhead.symm)) (hapart hds c List.mem_cons_self)
  · intro ds hds hds' hi
    have hback := h.holds ds hds hds' (infix_of_infix_append hds' (hapart hds) hi)
    exact hback.trans (List.suffix_append xs zs).isInfix

/-- Where characters are rewritten one by one, runs are kept if what is rewritten otherwise is of
another kind. -/
lemma keeps_flatMap {f g : Char → List Char} {cs : List Char}
    (h : ∀ c ∈ cs, f c = g c ∨ f c ≠ [] ∧ ∀ d ∈ f c, P d = false) :
    Keeps P (cs.flatMap f) (cs.flatMap g) := by
  induction cs with
  | nil => exact keeps_refl P []
  | cons c rest ih =>
    rw [List.forall_mem_cons] at h
    simp only [List.flatMap_cons]
    rcases h.1 with heq | ⟨hne, hfront⟩
    · rw [heq]
      exact (ih h.2).append _
    · exact (ih h.2).replace hne hfront _

end EditorialDesk.Text
