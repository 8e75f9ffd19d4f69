import EditorialDesk.Proofs.Review.DueDate
import EditorialDesk.Proofs.Text.Trimming
import EditorialDesk.Proofs.Text.Words

/-!
# Labels of recommendations

What is shown for a recommendation depends on its core alone, the text without the white
space around it. A core with the letters of a known recommendation is shown by its label,
any other one as it is, and nothing is shown for a blank text. A label is no known
recommendation, so it is its own label.
-/
namespace EditorialDesk.Text

/-!
## Words of a vocabulary

A text in lower case is a word of a vocabulary if and only if it has the letters of the
word, capital or not. Of the characters beyond ASCII only the Kelvin sign has a plain one
in its place in lower case, a `k`, so this holds of words without that letter.
-/

/-- Whether texts have the same letters, capital or not. Only those of ASCII have capitals here. -/
def SameLetters (s t : String) : Prop :=
  s.toList.map Char.toLower = t.toList.map Char.toLower

instance (s t : String) : Decidable (SameLetters s t) := inferInstanceAs (Decidable (_ = _))

/-- What no character beyond ASCII has in its place in lower case. -/
def isNative (c : Char) : Bool := isPlain c && c != 'k'

variable {s word : String} {c : Char} {cs : List Char}

lemma isNative_of_foreign (hc : 0x80 ≤ c.toNat) : isNative c = false := by
  rw [isNative, Bool.and_eq_false_imp]
  intro hplain
  have := toNat_of_isPlain hplain
  omega

/-- In lower case a character beyond ASCII has something in its place that is not native. -/
lemma exists_foreign (hc : 0x80 ≤ c.toNat) : ∃ d ∈ lowerChar c, isNative d = false := by
  have hruns : ∀ r ∈ capitalRuns, r.last < 0x80 ∨ r = ⟨0x212A, 0x212A, 1, -8383⟩ ∨
      (123 : Int) ≤ r.first + r.shift := by
    decide +kernel
  unfold lowerChar
  split
  · exact ⟨'\u0307', by simp, by decide⟩
  split
  · next r hr =>
    have hcovers := List.find?_some hr
    simp only [CapitalRun.covers, Bool.and_eq_true, decide_eq_true_eq] at hcovers
    refine ⟨_, List.mem_singleton_self _, ?_⟩
    rcases hruns r (List.mem_of_find?_eq_some hr) with hlow | rfl | hhigh
    · omega
    · have hkelvin : c.toNat = 0x212A := Nat.le_antisymm hcovers.1.2 hcovers.1.1
      rw [hkelvin]
      decide
    · rw [isNative, isPlain_ofNat (by omega), Bool.false_and]
  · exact ⟨c, List.mem_singleton_self c, isNative_of_foreign hc⟩

lemma lowerFrom_of_ascii (h : ∀ c ∈ cs, c.toNat < 0x80) (before : List Char) :
    lowerFrom before cs = cs.map Char.toLower := by
  induction cs generalizing before with
  | nil => rfl
  | cons c rest ih =>
    rw [List.forall_mem_cons] at h
    have hsigma : (c == 'Σ') = false := by
      rw [beq_eq_false_iff_ne]
      rintro rfl
      exact absurd h.1 (by decide)
    rw [lowerFrom, hsigma, if_neg Bool.false_ne_true, lowerChar_of_ascii h.1, ih h.2]
    rfl

/-- What a character beyond ASCII becomes stays in the text. -/
lemma exists_foreign_lowerFrom (hmem : c ∈ cs) (hc : 0x80 ≤ c.toNat) (before : List Char) :
    ∃ d ∈ lowerFrom before cs, isNative d = false := by
  induction cs generalizing before with
  | nil => cases hmem
  | cons x rest ih =>
    rw [lowerFrom]
    rcases List.mem_cons.1 hmem with rfl | hmem
    · split
      · split
        · exact ⟨'ς', by simp, by decide⟩
        · exact ⟨'σ', by simp, by decide⟩
      · obtain ⟨d, hd, hforeign⟩ := exists_foreign hc
        exact ⟨d, List.mem_append_left _ hd, hforeign⟩
    · obtain ⟨d, hd, hforeign⟩ := ih hmem (x :: before)
      exact ⟨d, List.mem_append_right _ hd, hforeign⟩

lemma isNative_toLower_of_foreign (hc : 0x80 ≤ c.toNat) : isNative c.toLower = false := by
  have hsame : c.toLower = c := by
    refine dif_neg fun h => ?_
    have hlast : c.toNat ≤ 'Z'.toNat := UInt32.le_iff_toNat_le.1 h.2
    exact absurd (Nat.le_trans hc hlast) (by decide)
  rw [hsame, isNative_of_foreign hc]

/-- A text in lower case is a native word if and only if it has the letters of the word. -/
theorem lower_eq_iff (hword : ∀ d ∈ word.toList, isNative d = true) :
    lower s = word ↔ s.toList.map Char.toLower = word.toList := by
  have hlower : lower s = word ↔ lowerFrom [] s.toList = word.toList := by
    rw [lower, ← String.toList_inj, String.toList_ofList]
  rw [hlower]
  by_cases hs : ∀ c ∈ s.toList, c.toNat < 0x80
  · rw [lowerFrom_of_ascii hs]
  · simp only [not_forall, Nat.not_lt] at hs
    obtain ⟨c, hmem, hc⟩ := hs
    obtain ⟨d, hd, hforeign⟩ := exists_foreign_lowerFrom hmem hc []
    constructor
    · intro heq
      exact absurd (hword d (heq ▸ hd)) (by simp [hforeign])
    · intro heq
      have hnative := hword _ (heq ▸ List.mem_map_of_mem hmem)
      exact absurd hnative (by simp [isNative_toLower_of_foreign hc])

end EditorialDesk.Text

/-! ## Labels of recommendations -/
namespace EditorialDesk.Review
namespace Recommendation

lemma mem_all (r : Recommendation) : r ∈ all := by cases r <;> decide

lemma ofWord?_eq_some_iff {w : String} {r : Recommendation} :
    ofWord? w = some r ↔ w = r.word := by
  constructor
  · intro h
    have hword : r.word = w := by simpa using List.find?_some h
    exact hword.symm
  · rintro rfl
    cases r <;> decide

variable {s core label front back : String} {r : Recommendation}

lemma ofWord?_lower_eq_some_iff :
    ofWord? (Text.lower core) = some r ↔ Text.SameLetters core r.word := by
  have hnative : r.word.toList.all Text.isNative = true := by cases r <;> decide
  have hsmall : r.word.toList.map Char.toLower = r.word.toList := by cases r <;> decide
  rw [ofWord?_eq_some_iff, Text.lower_eq_iff (List.all_eq_true.1 hnative), Text.SameLetters, hsmall]

lemma ofWord?_lower_eq_none_iff :
    ofWord? (Text.lower core) = none ↔ ∀ r : Recommendation, ¬Text.SameLetters core r.word := by
  simp only [← ofWord?_lower_eq_some_iff, Option.eq_none_iff_forall_ne_some, ne_eq]

lemma shown?_of_core (h : Text.HasCore s core) : shown? (some s) =
    if core = "" then none
    else some (((ofWord? (Text.lower core)).map Recommendation.label).getD core) := by
  simp only [shown?, Option.getD_some, h.trim_eq, beq_iff_eq]
  cases ofWord? (Text.lower core) <;> rfl

lemma shown?_none : shown? none = none := rfl

lemma shown?_eq_none_iff : shown? (some s) = none ↔ Text.AllBlank s := by
  have hcore := Text.hasCore_trim s
  rw [shown?_of_core hcore, hcore.allBlank_iff]
  split
  · next h => exact iff_of_true rfl h
  · next h => exact iff_of_false nofun h

/-- A text with the letters of a known recommendation is shown by the label of that. -/
lemma shown?_of_sameLetters (h : Text.HasCore s core) (hr : Text.SameLetters core r.word) :
    shown? (some s) = some r.label := by
  have hne : core ≠ "" := by
    rintro rfl
    have hempty : ∀ r ∈ all, ¬Text.SameLetters "" r.word := by decide
    exact hempty r r.mem_all hr
  rw [shown?_of_core h, if_neg hne, ofWord?_lower_eq_some_iff.2 hr]
  rfl

/-- Any other text is shown as it is, without the white space around it. -/
lemma shown?_of_unknown (h : Text.HasCore s core) (hs : ¬Text.AllBlank s)
    (hunknown : ∀ r : Recommendation, ¬Text.SameLetters core r.word) :
    shown? (some s) = some core := by
  rw [shown?_of_core h, if_neg (mt h.allBlank_iff.2 hs), ofWord?_lower_eq_none_iff.2 hunknown]
  rfl

lemma shown?_around (hfront : Text.AllBlank front) (hback : Text.AllBlank back) :
    shown? (some (front ++ s ++ back)) = shown? (some s) := by
  have hcore := Text.hasCore_trim s
  rw [shown?_of_core hcore, shown?_of_core (hcore.around hfront hback)]

lemma shown?_label (r : Recommendation) : shown? (some r.label) = some r.label := by
  have hall : ∀ r ∈ all, shown? (some r.label) = some r.label := by decide +kernel
  exact hall r r.mem_all

/-- What is shown for a text is shown for itself. -/
lemma shown?_shown (h : shown? (some s) = some label) : shown? (some label) = some label := by
  have hcore := Text.hasCore_trim s
  have hs := shown?_of_core hcore
  rw [h] at hs
  split at hs
  · cases hs
  · next hne =>
    cases hword : ofWord? (Text.lower (Text.trim s)) with
    | some r =>
      rw [hword] at hs
      obtain rfl := Option.some.inj hs
      exact r.shown?_label
    | none =>
      rw [hword] at hs
      obtain rfl := Option.some.inj hs
      rw [Option.map_none, Option.getD_none, shown?_of_core hcore.self, if_neg hne, hword]
      rfl

end Recommendation

open Recommendation in
/-- The label of a recommendation. Every text has a core. Nothing is shown if and only if the text
is blank; a core with the letters of a known recommendation, capital or not, is shown by its label;
any other one is shown as it is. So what is shown is not blank and is shown for itself as well, and
white space around the text changes nothing. A review that has come shows no details if and only if
it has no recommendation or a blank one. -/
theorem label_exact (s : String) : ∃ core, Text.HasCore s core ∧
    (shown? (some s) = none ↔ Text.AllBlank s) ∧
    (∀ r : Recommendation, Text.SameLetters core r.word → shown? (some s) = some r.label) ∧
    (¬Text.AllBlank s → (∀ r : Recommendation, ¬Text.SameLetters core r.word) →
      shown? (some s) = some core) ∧
    (∀ label, shown? (some s) = some label →
      ¬Text.AllBlank label ∧ shown? (some label) = some label) ∧
    (∀ front back, Text.AllBlank front → Text.AllBlank back →
      shown? (some (front ++ s ++ back)) = shown? (some s)) ∧
    ∀ (p : Presenter) (a : Assignment) (status : Status),
      a.status p.zone p.today = .ok status → status ∈ [.complete, .received, .thanked] →
      ∃ v, p.present a = .ok v ∧ v.status = status ∧
        (v.details = none ↔ ∀ given ∈ a.recommendation, Text.AllBlank given) := by
  have hcore := Text.hasCore_trim s
  refine ⟨_, hcore, shown?_eq_none_iff, fun r => shown?_of_sameLetters hcore,
    shown?_of_unknown hcore, fun label h => ?_, fun front back => shown?_around,
    fun p a status hstatus hcome => ?_⟩
  · have hself := shown?_shown h
    exact ⟨fun hblank => Option.some_ne_none _ (hself.symm.trans (shown?_eq_none_iff.2 hblank)),
      hself⟩
  · have hdetails : p.details a status =
        .ok (a.recommendationLabel.map ("Recommendation: " ++ ·)) := by
      simp only [List.mem_cons, List.not_mem_nil, or_false] at hcome
      rcases hcome with rfl | rfl | rfl <;> rfl
    refine ⟨_, Presenter.present_eq_ok.2 ⟨status, hstatus, _, hdetails, rfl⟩, rfl, ?_⟩
    rw [Option.map_eq_none_iff, Assignment.recommendationLabel]
    cases a.recommendation with
    | none => simp [shown?_none]
    | some given => simp [shown?_eq_none_iff]

example : Recommendation.shown? (some "\u2003SEE_Comments ") = some "See Comments" := by
  decide +kernel

end EditorialDesk.Review
