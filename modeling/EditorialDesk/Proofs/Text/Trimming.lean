import EditorialDesk.Text.Casing
import Mathlib.Data.List.DropRight
import Mathlib.Tactic.Lemma

/-!
# White space around a text

A text is white space, a core that neither begins nor ends with white space, and white
space again. The core is determined by the text, and trimming finds it.
-/
namespace EditorialDesk.Text

/-- Nothing but white space, and perhaps nothing at all. -/
def AllBlank (s : String) : Prop := ∀ c ∈ s.toList, isBlank c = true

instance (s : String) : Decidable (AllBlank s) := inferInstanceAs (Decidable (∀ c ∈ _, _))

/-- A list whose ends are no white space. -/
structure IsCore (cs : List Char) : Prop where
  begins : ∀ c ∈ cs.head?, isBlank c = false
  ends : ∀ c ∈ cs.getLast?, isBlank c = false

/-- A text with its core and nothing but white space around it. -/
def HasCore (s core : String) : Prop :=
  IsCore core.toList ∧ ∃ front back, AllBlank front ∧ AllBlank back ∧ s = front ++ core ++ back

section Strip

variable {front cs back : List Char}

/-- From the front of a list everything that is to be dropped goes, and then from its back. -/
lemma stripBy_eq (skip : Char → Bool) (cs : List Char) :
    stripBy skip cs = (cs.dropWhile skip).rdropWhile skip := rfl

lemma exists_strip (cs : List Char) : ∃ front back : List Char,
    (∀ c ∈ front, isBlank c = true) ∧ (∀ c ∈ back, isBlank c = true) ∧
      cs = front ++ strip cs ++ back := by
  refine ⟨cs.takeWhile isBlank, (cs.dropWhile isBlank).rtakeWhile isBlank,
    fun c hc => List.mem_takeWhile_imp hc, fun c hc => List.mem_rtakeWhile_imp hc, ?_⟩
  rw [strip, stripBy_eq, List.append_assoc, List.rdropWhile_append_rtakeWhile,
    List.takeWhile_append_dropWhile]

lemma isCore_strip (cs : List Char) : IsCore (strip cs) where
  begins c hc := by
    obtain ⟨more, hmore⟩ := List.rdropWhile_prefix isBlank (cs.dropWhile isBlank)
    have hhead : (cs.dropWhile isBlank).head? = some c := by
      rw [← hmore, ← stripBy_eq, ← strip, List.head?_append, hc, Option.some_or]
    have hnot := List.head?_dropWhile_not isBlank cs
    rwa [hhead] at hnot
  ends c hc := by
    obtain ⟨hne, rfl⟩ := List.mem_getLast?_eq_getLast hc
    exact Bool.eq_false_iff.2 (List.rdropWhile_last_not isBlank _ hne)

/-- A core is all that is left of it with white space around it. -/
lemma strip_around (hfront : ∀ c ∈ front, isBlank c = true) (hcore : IsCore cs)
    (hback : ∀ c ∈ back, isBlank c = true) : strip (front ++ cs ++ back) = cs := by
  rw [strip, stripBy_eq, List.append_assoc, List.dropWhile_append_of_pos hfront]
  cases cs with
  | nil => rw [List.nil_append, List.dropWhile_eq_nil_iff.2 hback, List.rdropWhile_nil]
  | cons c rest =>
    have hbegins : isBlank c = false := hcore.begins c rfl
    have hends : (c :: rest).rdropWhile isBlank = c :: rest :=
      List.rdropWhile_eq_self_iff.2 fun hne =>
        Bool.eq_false_iff.1 (hcore.ends _ (List.getLast?_eq_getLast_of_ne_nil hne))
    rw [List.cons_append, List.dropWhile_cons_of_neg (by simp [hbegins]), ← List.cons_append,
      List.rdropWhile, List.reverse_append,
      List.dropWhile_append_of_pos (by simpa using hback), ← List.rdropWhile, hends]

end Strip

variable {s core front back : String}

theorem hasCore_trim (s : String) : HasCore s (trim s) := by
  obtain ⟨front, back, hfront, hback, hs⟩ := exists_strip s.toList
  refine ⟨?_, String.ofList front, String.ofList back, ?_, ?_, ?_⟩
  · rw [trim, String.toList_ofList]
    exact isCore_strip s.toList
  · rwa [AllBlank, String.toList_ofList]
  · rwa [AllBlank, String.toList_ofList]
  · rw [trim, ← String.ofList_append, ← String.ofList_append, ← hs, String.ofList_toList]

theorem HasCore.trim_eq (h : HasCore s core) : trim s = core := by
  obtain ⟨hcore, front, back, hfront, hback, rfl⟩ := h
  rw [trim, String.toList_append, String.toList_append, strip_around hfront hcore hback,
    String.ofList_toList]

lemma HasCore.around (h : HasCore s core) (hfront : AllBlank front) (hback : AllBlank back) :
    HasCore (front ++ s ++ back) core := by
  obtain ⟨hcore, front', back', hfront', hback', rfl⟩ := h
  refine ⟨hcore, front ++ front', back' ++ back, ?_, ?_, by simp only [String.append_assoc]⟩
  · simpa only [AllBlank, String.toList_append, List.forall_mem_append] using ⟨hfront, hfront'⟩
  · simpa only [AllBlank, String.toList_append, List.forall_mem_append] using ⟨hback', hback⟩

lemma HasCore.self (h : HasCore s core) : HasCore core core :=
  ⟨h.1, "", "", nofun, nofun, by simp⟩

/-- A text is blank if and only if its core is empty. -/
lemma HasCore.allBlank_iff (h : HasCore s core) : AllBlank s ↔ core = "" := by
  obtain ⟨hcore, front, back, hfront, hback, rfl⟩ := h
  simp only [AllBlank, String.toList_append, List.forall_mem_append] at hfront hback ⊢
  constructor
  · rintro ⟨⟨-, hblank⟩, -⟩
    by_contra hne
    have hlist : core.toList ≠ [] := by simpa using hne
    obtain ⟨c, rest, hchars⟩ := List.exists_cons_of_ne_nil hlist
    have hbegins := hcore.begins c (by rw [hchars]; rfl)
    exact Bool.false_ne_true (hbegins.symm.trans (hblank c (by simp [hchars])))
  · rintro rfl
    exact ⟨⟨hfront, nofun⟩, hback⟩

end EditorialDesk.Text
