import EditorialDesk.Proofs.Text.Runs
import EditorialDesk.Text.Casing
import EditorialDesk.Text.Quoted
import Mathlib.Tactic.Lemma

/-!
# Words in texts

A text mentions a phrase of small letters, digits, bars and spaces if it holds the phrase in
any letter case. Quoting a text keeps what it mentions, as the characters that lower to plain
ones are shown as they are. A word, which has no spaces, does not reach from one of two parts
into the other across a separator.
-/
namespace EditorialDesk.Text

/-!
## Lower case keeps what is in lower case

The lower-case form of a text holds every part of the text that consists of characters
without another lower-case form. Errors are classified by searching lower-case texts, so
a number or a word in lower case that an error bears is found in its text.
-/

/-- A character that stays as it is in lower case, wherever it stands. -/
def isLower (c : Char) : Bool := c != 'Σ' && lowerChar c == [c]

/-- Lowering the front of a text leaves the rest to be lowered behind it. -/
lemma lowerFrom_append (before xs ys : List Char) :
    ∃ front, lowerFrom before (xs ++ ys) = front ++ lowerFrom (xs.reverse ++ before) ys := by
  induction xs generalizing before with
  | nil => exact ⟨[], rfl⟩
  | cons c rest ih =>
    obtain ⟨front, hf⟩ := ih (c :: before)
    rw [List.cons_append, lowerFrom, hf, ← List.append_assoc, List.reverse_cons,
      List.append_assoc rest.reverse]
    exact ⟨_, rfl⟩

lemma lowerFrom_of_isLower {xs : List Char} (h : ∀ c ∈ xs, isLower c = true)
    (before ys : List Char) :
    lowerFrom before (xs ++ ys) = xs ++ lowerFrom (xs.reverse ++ before) ys := by
  induction xs generalizing before with
  | nil => rfl
  | cons c rest ih =>
    have hc := h c List.mem_cons_self
    simp only [isLower, Bool.and_eq_true, bne_iff_ne, ne_eq, beq_iff_eq] at hc
    rw [List.cons_append, lowerFrom, ih fun d hd => h d (List.mem_cons_of_mem _ hd)]
    simp [hc.1, hc.2]

lemma holds_iff {s part : String} : holds s part = true ↔ part.toList <:+: s.toList :=
  occursIn_iff _ _

/-- A part of a text that is in lower case is a part of the text in lower case. -/
theorem holds_lower {s part : String} (h : holds s part = true)
    (hpart : part.toList.all isLower = true) : holds (lower s) part = true := by
  have hlower := List.all_eq_true.1 hpart
  obtain ⟨front, back, hs⟩ := holds_iff.1 h
  obtain ⟨front', hf⟩ := lowerFrom_append [] front (part.toList ++ back)
  rw [lowerFrom_of_isLower hlower, ← List.append_assoc, ← List.append_assoc, hs] at hf
  rw [holds_iff, lower, String.toList_ofList, hf]
  exact ⟨front', _, rfl⟩

lemma holds_append_left {s t part : String} (h : holds s part = true) :
    holds (s ++ t) part = true := by
  rw [holds_iff, String.toList_append]
  exact (holds_iff.1 h).trans (List.prefix_append _ _).isInfix

end EditorialDesk.Text

/-! ## Words in texts -/
namespace EditorialDesk.Text

/-- A small letter, a digit or a bar. -/
def isWordChar (c : Char) : Bool := c.isLower || c.isDigit || c == '_'

/-- What can stand in a phrase. -/
def isPlain (c : Char) : Bool := isWordChar c || c == ' '

/-- Words with spaces between them. -/
def IsPhrase (part : String) : Prop :=
  part ≠ "" ∧ part.toList.all isPlain = true ∧ part.toList.getLast? ≠ some ' '

def IsWord (part : String) : Prop := part ≠ "" ∧ part.toList.all isWordChar = true

/-- A text of printable ASCII characters. -/
def IsBasic (s : String) : Prop :=
  s.toList.all (fun c => 0x20 ≤ c.toNat && c.toNat < 0x7F) = true

/-- What stands between words. -/
def IsSeparator (sep : String) : Prop :=
  sep ≠ "" ∧ sep.toList.all (fun c => lowerChar c == [c] && !isWordChar c) = true

instance (part : String) : Decidable (IsPhrase part) := inferInstanceAs (Decidable (_ ∧ _ ∧ _))
instance (part : String) : Decidable (IsWord part) := inferInstanceAs (Decidable (_ ∧ _))
instance (s : String) : Decidable (IsBasic s) := inferInstanceAs (Decidable (_ = _))
instance (sep : String) : Decidable (IsSeparator sep) := inferInstanceAs (Decidable (_ ∧ _))

/-- Whether a text holds a phrase in any letter case. -/
def mentions (s part : String) : Bool := holds (lower s) part

variable {s t part sep : String}

lemma IsPhrase.isPlain (h : IsPhrase part) : ∀ d ∈ part.toList, isPlain d = true :=
  List.all_eq_true.1 h.2.1

lemma IsPhrase.ne_nil (h : IsPhrase part) : part.toList ≠ [] := by simpa using h.1

lemma IsWord.isPhrase (h : IsWord part) : IsPhrase part := by
  have hchars := List.all_eq_true.1 h.2
  refine ⟨h.1, List.all_eq_true.2 fun d hd => ?_, fun hlast => ?_⟩
  · rw [Text.isPlain, hchars d hd, Bool.true_or]
  · cases hchars ' ' (List.mem_of_getLast? hlast)

/-! ### Lower case, character by character

The place of a capital sigma decides which of two small ones it becomes, but neither is
plain. For phrases a text can therefore be lowered one character at a time. -/

lemma keeps_lowerFrom (before cs : List Char) :
    Keeps isPlain (lowerFrom before cs) (cs.flatMap lowerChar) ∧
      Keeps isPlain (cs.flatMap lowerChar) (lowerFrom before cs) := by
  induction cs generalizing before with
  | nil => exact ⟨keeps_refl _ _, keeps_refl _ _⟩
  | cons c rest ih =>
    obtain ⟨hthere, hback⟩ := ih (c :: before)
    rw [lowerFrom, List.flatMap_cons]
    split
    · next hc =>
      obtain rfl : c = 'Σ' := beq_iff_eq.1 hc
      have hsigma : lowerChar 'Σ' = ['σ'] := by decide +kernel
      have hsmall : ∀ d ∈ ['σ'], isPlain d = false := List.forall_mem_singleton.2 rfl
      have hlast : ∀ d ∈ ['ς'], isPlain d = false := List.forall_mem_singleton.2 rfl
      rw [hsigma]
      split
      · exact ⟨hthere.replace (List.cons_ne_nil _ _) hlast _,
          hback.replace (List.cons_ne_nil _ _) hsmall _⟩
      · exact ⟨hthere.append _, hback.append _⟩
    · exact ⟨hthere.append _, hback.append _⟩

/-- What a text mentions is in its characters, each of them in lower case. -/
lemma mentions_iff (h : IsPhrase part) :
    mentions s part = true ↔ part.toList <:+: s.toList.flatMap lowerChar := by
  rw [mentions, holds_iff, lower, String.toList_ofList]
  have hkeeps := keeps_lowerFrom [] s.toList
  exact ⟨hkeeps.1.holds _ h.isPlain h.ne_nil, hkeeps.2.holds _ h.isPlain h.ne_nil⟩

/-! ### Basic texts

In ASCII the letters alone have capitals, so a basic text need not be lowered by the tables. -/

def basicCapitals : CapitalRun := ⟨0x41, 0x5A, 1, 32⟩

lemma lowerChar_of_ascii {c : Char} (h : c.toNat < 0x80) : lowerChar c = [c.toLower] := by
  have hfirst : capitalRuns = basicCapitals :: capitalRuns.tail := rfl
  have hothers : capitalRuns.tail.find? (·.covers c.toNat) = none := by
    have hhigh : ∀ r ∈ capitalRuns.tail, 0x80 ≤ r.first := by decide +kernel
    refine List.find?_eq_none.2 fun r hr hcovers => ?_
    have hrun := hhigh r hr
    simp only [CapitalRun.covers, Bool.and_eq_true, decide_eq_true_eq] at hcovers
    omega
  have hall : ∀ n < 0x80, (n == 0x130) = false ∧
      (if basicCapitals.covers n then Char.ofNat (n + 32) else Char.ofNat n) =
        (Char.ofNat n).toLower := by
    decide +kernel
  obtain ⟨hdot, hletter⟩ := hall c.toNat h
  rw [Char.ofNat_toNat] at hletter
  rw [lowerChar, hdot, if_neg Bool.false_ne_true, hfirst, List.find?_cons, hothers, ← hletter]
  cases basicCapitals.covers c.toNat <;> rfl

lemma IsBasic.bounds (h : IsBasic s) : ∀ c ∈ s.toList, 0x20 ≤ c.toNat ∧ c.toNat < 0x7F := by
  intro c hc
  simpa only [Bool.and_eq_true, decide_eq_true_eq] using List.all_eq_true.1 h c hc

lemma mentions_eq_of_isBasic (hpart : IsPhrase part) (hs : IsBasic s) :
    mentions s part = occursIn part.toList (s.toList.map Char.toLower) := by
  have hlower : s.toList.flatMap lowerChar = s.toList.map Char.toLower := by
    rw [← List.flatMap_pure_eq_map]
    exact List.flatMap_congr fun c hc => lowerChar_of_ascii (by have := hs.bounds c hc; omega)
  rw [Bool.eq_iff_iff, mentions_iff hpart, hlower, occursIn_iff]

/-! ### Quoted texts -/

lemma toNat_of_isDigit {c : Char} (h : c.isDigit = true) : 48 ≤ c.toNat ∧ c.toNat ≤ 57 := by
  simpa [Char.isDigit, UInt32.le_iff_toNat_le] using h

lemma toNat_of_isPlain {c : Char} (h : isPlain c = true) : 32 ≤ c.toNat ∧ c.toNat ≤ 122 := by
  simp only [isPlain, isWordChar, Bool.or_eq_true, beq_iff_eq] at h
  rcases h with ((h | h) | rfl) | rfl
  · have hcode : (decide ('a'.val ≤ c.val) && decide (c.val ≤ 'z'.val)) = true := h
    simp only [Bool.and_eq_true, decide_eq_true_eq, UInt32.le_iff_toNat_le] at hcode
    exact ⟨Nat.le_trans (by decide) hcode.1, hcode.2⟩
  · have := toNat_of_isDigit h
    omega
  · decide
  · decide

lemma toNat_ofNat (n : Nat) : (Char.ofNat n).toNat = n ∨ (Char.ofNat n).toNat = 0 := by
  by_cases hn : n.isValidChar
  · exact .inl (congrArg Char.toNat (dif_pos hn))
  · exact .inr (congrArg Char.toNat (dif_neg hn))

lemma isPlain_ofNat {n : Nat} (h : 123 ≤ n) : isPlain (Char.ofNat n) = false := by
  rw [Bool.eq_false_iff]
  intro hplain
  have hbounds := toNat_of_isPlain hplain
  rcases toNat_ofNat n with hn | hn <;> omega

/-- The characters from the space to the tilde are written as they are inside quotes, but for the
quote itself and the escape mark. -/
lemma escape_of_ascii {mark c : Char} (hlow : 0x20 ≤ c.toNat) (hhigh : c.toNat < 0x7F)
    (hmark : c ≠ mark) (hslash : c ≠ '\\') : escape mark c = [c] := by
  have hranges : ∀ r ∈ hiddenRanges, r.2 < 0x20 ∨ 0x7F ≤ r.1 := by decide +kernel
  have hprintable : isPrintable c = true := by
    rw [isPrintable, Bool.not_eq_true', List.any_eq_false]
    intro r hr
    have := hranges r hr
    simp only [Bool.and_eq_true, decide_eq_true_eq, not_and, Nat.not_le]
    omega
  have hcontrol : ∀ d : Char, d.toNat < 0x20 → c ≠ d := by
    rintro d hd rfl
    omega
  simp [escape, hmark, hslash, hcontrol '\n' (by decide), hcontrol '\r' (by decide),
    hcontrol '\t' (by decide), hprintable]

/-- A character that is neither plain nor a letter. -/
structure IsMark (c : Char) : Prop where
  lower : lowerChar c = [c]
  apart : isPlain c = false
  noCapital : ¬(0x41 ≤ c.toNat ∧ c.toNat ≤ 0x5A)

lemma isMark_slash : IsMark '\\' := ⟨by decide +kernel, rfl, by decide⟩

lemma isMark_of_mem {mark : Char} (h : mark ∈ ['\'', '"']) : IsMark mark := by
  rcases List.mem_pair.1 h with rfl | rfl
  · exact ⟨by decide +kernel, rfl, by decide⟩
  · exact ⟨by decide +kernel, rfl, by decide⟩

lemma escape_or_lowerChar (c : Char) {mark : Char} (hmark : mark ∈ ['\'', '"']) :
    escape mark c = [c] ∨ lowerChar c ≠ [] ∧ ∀ d ∈ lowerChar c, isPlain d = false := by
  have hruns : ∀ r ∈ capitalRuns, r = ⟨0x41, 0x5A, 1, 32⟩ ∨ r = ⟨0x212A, 0x212A, 1, -8383⟩ ∨
      (123 : Int) ≤ r.first + r.shift := by
    decide +kernel
  have hshown : ∀ n ∈ [0x130, 0x212A], c.toNat = n → escape mark c = [c] := by
    have hall : ∀ n ∈ [0x130, 0x212A], escape mark (Char.ofNat n) = [Char.ofNat n] := by
      rcases List.mem_pair.1 hmark with rfl | rfl <;> decide +kernel
    intro n hn heq
    have h := hall n hn
    rwa [← heq, Char.ofNat_toNat] at h
  have hquote := isMark_of_mem hmark
  unfold lowerChar
  split
  · next heq => exact .inl (hshown _ (by simp) (beq_iff_eq.1 heq))
  split
  · next r hr =>
    have hcovers := List.find?_some hr
    simp only [CapitalRun.covers, Bool.and_eq_true, decide_eq_true_eq] at hcovers
    rcases hruns r (List.mem_of_find?_eq_some hr) with rfl | rfl | hhigh
    · have hletter : 0x41 ≤ c.toNat ∧ c.toNat ≤ 0x5A := hcovers.1
      exact .inl (escape_of_ascii (by omega) (by omega)
        (fun heq => hquote.noCapital (heq ▸ hletter))
        fun heq => isMark_slash.noCapital (heq ▸ hletter))
    · have hkelvin : 0x212A ≤ c.toNat ∧ c.toNat ≤ 0x212A := hcovers.1
      exact .inl (hshown 0x212A (by simp) (by omega))
    · refine .inr ⟨List.cons_ne_nil _ _, fun d hd => ?_⟩
      rw [List.mem_singleton.1 hd]
      exact isPlain_ofNat (by omega)
  · by_cases hplain : isPlain c = true
    · have hbounds := toNat_of_isPlain hplain
      exact .inl (escape_of_ascii hbounds.1 (by omega)
        (fun heq => Bool.false_ne_true (hquote.apart.symm.trans (heq ▸ hplain)))
        fun heq => Bool.false_ne_true (isMark_slash.apart.symm.trans (heq ▸ hplain)))
    · refine .inr ⟨List.cons_ne_nil _ _, fun d hd => ?_⟩
      rw [List.mem_singleton.1 hd, Bool.eq_false_iff]
      exact hplain

lemma quoteMark_mem (cs : List Char) : quoteMark cs ∈ ['\'', '"'] := by
  unfold quoteMark
  split <;> decide

/-- What a text mentions, the quoted text mentions. -/
theorem mentions_quoted (h : IsPhrase part) (hs : mentions s part = true) :
    mentions (quoted s) part = true := by
  have hkeeps : Keeps isPlain (s.toList.flatMap lowerChar)
      (s.toList.flatMap fun c => (escape (quoteMark s.toList) c).flatMap lowerChar) := by
    refine keeps_flatMap fun c _ => ?_
    rcases escape_or_lowerChar c (quoteMark_mem s.toList) with hc | hc
    · exact .inl (by rw [hc, List.flatMap_singleton])
    · exact .inr hc
  rw [mentions_iff h] at hs ⊢
  rw [quoted, String.toList_ofList, List.cons_append, List.flatMap_cons, List.flatMap_append,
    List.flatMap_assoc]
  have hinner := hkeeps.holds _ h.isPlain h.ne_nil hs
  exact (hinner.trans (List.prefix_append _ _).isInfix).trans (List.suffix_append _ _).isInfix

lemma escape_or_mark {mark c : Char} (hmark : mark ∈ ['\'', '"'])
    (hlow : 0x20 ≤ c.toNat) (hhigh : c.toNat < 0x7F) :
    escape mark c = [c] ∨ (escape mark c).flatMap lowerChar = ['\\', c] ∧ isPlain c = false := by
  by_cases hshown : c = mark ∨ c = '\\'
  · have hc : IsMark c := by
      rcases hshown with rfl | rfl
      · exact isMark_of_mem hmark
      · exact isMark_slash
    have hescape : escape mark c = ['\\', c] := if_pos (by simpa using hshown)
    refine .inr ⟨?_, hc.apart⟩
    rw [hescape, List.flatMap_cons, List.flatMap_singleton, hc.lower, isMark_slash.lower]
    rfl
  · rw [not_or] at hshown
    exact .inl (escape_of_ascii hlow hhigh hshown.1 hshown.2)

/-- Quotes add nothing to what a basic text mentions. -/
lemma mentions_quoted_iff (h : IsPhrase part) (hs : IsBasic s) :
    mentions (quoted s) part = true ↔ mentions s part = true := by
  have hkeeps : Keeps isPlain
      (s.toList.flatMap fun c => (escape (quoteMark s.toList) c).flatMap lowerChar)
      (s.toList.flatMap lowerChar) := by
    refine keeps_flatMap fun c hc => ?_
    have hbounds := hs.bounds c hc
    rcases escape_or_mark (quoteMark_mem s.toList) hbounds.1 hbounds.2 with heq | ⟨heq, hplain⟩
    · exact .inl (by rw [heq, List.flatMap_singleton])
    · rw [heq]
      exact .inr ⟨nofun, by simp [isMark_slash.apart, hplain]⟩
  have hmark := isMark_of_mem (quoteMark_mem s.toList)
  have hapart : quoteMark s.toList ∉ part.toList := fun hmem =>
    Bool.false_ne_true (hmark.apart.symm.trans (h.isPlain _ hmem))
  refine ⟨fun hq => ?_, mentions_quoted h⟩
  rw [mentions_iff h] at hq ⊢
  rw [quoted, String.toList_ofList, List.cons_append, List.flatMap_cons, List.flatMap_append,
    List.flatMap_singleton, hmark.lower, List.flatMap_assoc] at hq
  have hback := infix_of_infix_append h.ne_nil (by simpa using hapart) hq
  refine hkeeps.holds _ h.isPlain h.ne_nil ?_
  refine ((infix_append_cons_iff hapart).1 hback).resolve_right fun hnil => ?_
  exact h.ne_nil (List.infix_nil.1 hnil)

/-! ### Texts in parts -/

/-- What a part of a text mentions, the text mentions. -/
lemma mentions_of_infix (hpart : IsPhrase part) (hs : s.toList <:+: t.toList)
    (h : mentions s part = true) : mentions t part = true := by
  rw [mentions_iff hpart] at h ⊢
  obtain ⟨front, back, heq⟩ := hs
  rw [← heq, List.flatMap_append, List.flatMap_append]
  exact h.trans ⟨_, _, rfl⟩

/-- What is mentioned in a text with something in it that the phrase has no part of is in front of
that or behind it. -/
lemma mentions_split_iff (hpart : IsPhrase part) (hne : sep ≠ "")
    (hsep : ∀ c ∈ sep.toList, lowerChar c = [c] ∧ c ∉ part.toList) :
    mentions (s ++ sep ++ t) part = true ↔ mentions s part = true ∨ mentions t part = true := by
  have hsame : sep.toList.flatMap lowerChar = sep.toList := by
    rw [List.flatMap_congr fun c hc => (hsep c hc).1, List.flatMap_singleton']
  obtain ⟨c, more, hchars⟩ := List.exists_cons_of_ne_nil (show sep.toList ≠ [] by simpa using hne)
  rw [hchars] at hsame hsep
  rw [List.forall_mem_cons] at hsep
  simp only [mentions_iff hpart, String.toList_append, List.flatMap_append, hchars, hsame]
  rw [List.append_assoc, List.cons_append, infix_append_cons_iff hsep.1.2]
  refine or_congr_right ⟨infix_of_infix_append hpart.ne_nil fun d hd => (hsep.2 d hd).2, ?_⟩
  exact fun h => h.trans (List.suffix_append _ _).isInfix

lemma not_mentions_empty (hpart : IsPhrase part) : ¬mentions "" part = true := by
  rw [mentions_iff hpart]
  exact fun h => hpart.ne_nil (List.infix_nil.1 h)

/-- A word in a text with a separator in it is in front of the separator or behind it. -/
lemma mentions_separated_iff (hpart : IsWord part) (hsep : IsSeparator sep) :
    mentions (s ++ sep ++ t) part = true ↔ mentions s part = true ∨ mentions t part = true := by
  refine mentions_split_iff hpart.isPhrase hsep.1 fun c hc => ?_
  have h := List.all_eq_true.1 hsep.2 c hc
  simp only [Bool.and_eq_true, beq_iff_eq, Bool.not_eq_true'] at h
  refine ⟨h.1, fun hmem => ?_⟩
  exact Bool.false_ne_true (h.2.symm.trans (List.all_eq_true.1 hpart.2 c hmem))

lemma mentions_separator_append_iff (hpart : IsWord part) (hsep : IsSeparator sep) :
    mentions (sep ++ t) part = true ↔ mentions t part = true := by
  have h := mentions_separated_iff hpart hsep (s := "") (t := t)
  rw [String.empty_append] at h
  exact h.trans (or_iff_right (not_mentions_empty hpart.isPhrase))

lemma mentions_append_separator_iff (hpart : IsWord part) (hsep : IsSeparator sep) :
    mentions (s ++ sep) part = true ↔ mentions s part = true := by
  have h := mentions_separated_iff hpart hsep (s := s) (t := "")
  rw [String.append_empty] at h
  exact h.trans (or_iff_left (not_mentions_empty hpart.isPhrase))

/-- A phrase does not reach into a space behind the text. -/
lemma mentions_append_space_iff (hpart : IsPhrase part) :
    mentions (s ++ " ") part = true ↔ mentions s part = true := by
  have hspace : " ".toList.flatMap lowerChar = [' '] := by decide +kernel
  simp only [mentions_iff hpart, String.toList_append, List.flatMap_append, hspace]
  rw [List.infix_concat_iff, List.suffix_concat_iff]
  refine or_iff_right ?_
  rintro (hnil | ⟨front, hpart', -⟩)
  · exact hpart.ne_nil hnil
  · exact hpart.2.2 (by simp [hpart'])

end EditorialDesk.Text

/-!
## Numbers in texts

A number is looked for in a text as a run of digits. It is a word, and as lowering neither
makes nor loses a digit, a text mentions the numbers that it holds and no others.
-/
namespace EditorialDesk.Text

/-- Digits, and at least one. -/
def IsNumeral (part : String) : Prop := part ≠ "" ∧ part.toList.all Char.isDigit = true

instance (part : String) : Decidable (IsNumeral part) := inferInstanceAs (Decidable (_ ∧ _))

variable {s part : String}

/-- The digits, one by one. -/
def figures : List Char := ['0', '1', '2', '3', '4', '5', '6', '7', '8', '9']

lemma isDigit_iff (c : Char) : c.isDigit = true ↔ c ∈ figures := by
  constructor
  · intro h
    have hbounds := toNat_of_isDigit h
    have hall : ∀ n : Fin 10, Char.ofNat (n.val + 48) ∈ figures := by decide
    have hc := hall ⟨c.toNat - 48, by omega⟩
    simp only [Nat.sub_add_cancel hbounds.1, Char.ofNat_toNat] at hc
    exact hc
  · have hall : figures.all Char.isDigit = true := by decide
    exact List.all_eq_true.1 hall c

lemma isLower_of_isDigit {c : Char} (h : c.isDigit = true) : isLower c = true := by
  have hall : figures.all isLower = true := by decide +kernel
  exact List.all_eq_true.1 hall c ((isDigit_iff c).1 h)

lemma isDigit_ofNat {n : Nat} (h : 58 ≤ n) : (Char.ofNat n).isDigit = false := by
  rw [Bool.eq_false_iff]
  intro hdigit
  have hbounds := toNat_of_isDigit hdigit
  rcases toNat_ofNat n with hn | hn <;> omega

/-- Lowering leaves a character as it is, or puts something without digits in its place. -/
lemma lowerChar_cases (c : Char) :
    lowerChar c = [c] ∨ lowerChar c ≠ [] ∧ ∀ d ∈ lowerChar c, d.isDigit = false := by
  have hruns : ∀ r ∈ capitalRuns, (58 : Int) ≤ r.first + r.shift := by decide +kernel
  unfold lowerChar
  split
  · exact .inr ⟨List.cons_ne_nil _ _, by simp⟩
  · split
    · next r hr =>
      have hfirst : r.first ≤ c.toNat := by
        have := List.find?_some hr
        simp only [CapitalRun.covers, Bool.and_eq_true, decide_eq_true_eq] at this
        exact this.1.1
      have hge : 58 ≤ (c.toNat + r.shift).toNat := by
        have := hruns r (List.mem_of_find?_eq_some hr)
        omega
      refine .inr ⟨List.cons_ne_nil _ _, fun d hd => ?_⟩
      rw [List.mem_singleton.1 hd]
      exact isDigit_ofNat hge
    · exact .inl rfl

lemma IsNumeral.isDigit (h : IsNumeral part) : ∀ d ∈ part.toList, d.isDigit = true :=
  List.all_eq_true.1 h.2

lemma IsNumeral.isWord (h : IsNumeral part) : IsWord part := by
  refine ⟨h.1, List.all_eq_true.2 fun d hd => ?_⟩
  rw [isWordChar, h.isDigit d hd, Bool.or_true, Bool.true_or]

/-- A text mentions the numbers that it holds. -/
theorem mentions_numeral_iff (h : IsNumeral part) :
    mentions s part = true ↔ holds s part = true := by
  constructor
  · intro hlower
    have hphrase := h.isWord.isPhrase
    have hkeeps : Keeps Char.isDigit (s.toList.flatMap lowerChar) (s.toList.flatMap fun c => [c]) :=
      keeps_flatMap fun c _ => lowerChar_cases c
    rw [mentions_iff hphrase] at hlower
    have hs := hkeeps.holds _ h.isDigit hphrase.ne_nil hlower
    rw [List.flatMap_singleton'] at hs
    exact holds_iff.2 hs
  · intro hs
    exact holds_lower hs (List.all_eq_true.2 fun d hd => isLower_of_isDigit (h.isDigit d hd))

end EditorialDesk.Text
