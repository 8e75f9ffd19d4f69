import EditorialDesk.Proofs.Text.Trimming
import EditorialDesk.Stage
import EditorialDesk.Text.Whole
import Mathlib.Data.List.Pairwise
import Mathlib.Data.Nat.Digits.Defs
import Mathlib.Tactic.Ring

/-!
# The grammar of whole numbers

A whole number is written with an optional sign and with decimal digits, in one script or in
several, which may have single underscores between them. The reader of columns accepts just
these texts, with white space around them, up to a number of digits, and what it reads is
the number that the digits stand for.
-/
namespace EditorialDesk.Text

/-- A character is the decimal digit of a value: it stands so many places behind a zero. -/
def IsDigitOf (c : Char) (d : Nat) : Prop := ∃ z ∈ digitZeros, d < 10 ∧ c.toNat = z + d

/-- Digits of the given values, with single underscores between some of them. -/
inductive WritesDigits : List Char → List Nat → Prop
  | last {c : Char} {d : Nat} (digit : IsDigitOf c d) : WritesDigits [c] [d]
  | next {c : Char} {d : Nat} {cs : List Char} {ds : List Nat} (digit : IsDigitOf c d)
      (rest : WritesDigits cs ds) : WritesDigits (c :: cs) (d :: ds)
  | parted {c : Char} {d : Nat} {cs : List Char} {ds : List Nat} (digit : IsDigitOf c d)
      (rest : WritesDigits cs ds) : WritesDigits (c :: '_' :: cs) (d :: ds)

/-- Digits with a sign or without; true means negative. -/
inductive WritesSigned : List Char → Bool → List Nat → Prop
  | bare {cs : List Char} {ds : List Nat} (digits : WritesDigits cs ds) : WritesSigned cs false ds
  | plus {cs : List Char} {ds : List Nat} (digits : WritesDigits cs ds) :
      WritesSigned ('+' :: cs) false ds
  | minus {cs : List Char} {ds : List Nat} (digits : WritesDigits cs ds) :
      WritesSigned ('-' :: cs) true ds

/-- Without the white space around it a text writes a whole number. -/
def Spells (s : String) (n : Int) : Prop :=
  ∃ (core : String) (negative : Bool) (ds : List Nat), HasCore s core ∧
    WritesSigned core.toList negative ds ∧ n = signed negative (Nat.ofDigits 10 ds.reverse)

variable {c : Char} {d : Nat} {cs body : List Char} {ds : List Nat} {negative : Bool} {n : Int}

/-! ## Digits -/

/-- The digits of one script end before those of the next begin. -/
lemma pairwise_digitZeros : digitZeros.Pairwise fun z next => z + 10 ≤ next := by decide +kernel

/-- No character is a digit of two scripts. -/
lemma eq_of_mem_digitZeros {z z' : Nat} (hz : z ∈ digitZeros) (hz' : z' ∈ digitZeros)
    (h : z < z' + 10) (h' : z' < z + 10) : z = z' := by
  have hapart : digitZeros.Pairwise fun a b => a < b + 10 → b < a + 10 → a = b := by
    refine pairwise_digitZeros.imp ?_
    intro a b hab _ hba
    omega
  have : Std.Symm fun a b : Nat => a < b + 10 → b < a + 10 → a = b :=
    ⟨fun a b hab hba hab' => (hab hab' hba).symm⟩
  exact hapart.forall_of_forall (fun _ _ _ _ => rfl) hz hz' h h'

lemma digitValue?_eq_some_iff : digitValue? c = some d ↔ IsDigitOf c d := by
  unfold digitValue?
  rw [Option.map_eq_some_iff]
  constructor
  · rintro ⟨z, hfind, rfl⟩
    have hmem := List.mem_of_find?_eq_some hfind
    have hbounds := List.find?_some hfind
    simp only [Bool.and_eq_true, decide_eq_true_eq] at hbounds
    exact ⟨z, hmem, by omega, by omega⟩
  · rintro ⟨z, hmem, hlt, hc⟩
    cases hfind : digitZeros.find? fun z => z ≤ c.toNat && c.toNat < z + 10 with
    | none =>
      have hnot := List.find?_eq_none.1 hfind z hmem
      simp only [Bool.and_eq_true, decide_eq_true_eq] at hnot
      omega
    | some z' =>
      have hmem' := List.mem_of_find?_eq_some hfind
      have hbounds := List.find?_some hfind
      simp only [Bool.and_eq_true, decide_eq_true_eq] at hbounds
      have heq : z = z' := eq_of_mem_digitZeros hmem hmem' (by omega) (by omega)
      exact ⟨z', rfl, by omega⟩

lemma IsDigitOf.ne (h : IsDigitOf c d) {mark : Char} (hmark : digitValue? mark = none) :
    c ≠ mark := by
  rintro rfl
  simp [digitValue?_eq_some_iff.2 h] at hmark

lemma WritesDigits.exists_cons (h : WritesDigits cs ds) :
    ∃ c d rest, cs = c :: rest ∧ IsDigitOf c d := by
  cases h with
  | last digit => exact ⟨_, _, _, rfl, digit⟩
  | next digit rest => exact ⟨_, _, _, rfl, digit⟩
  | parted digit rest => exact ⟨_, _, _, rfl, digit⟩

lemma digitRun?_of_writesDigits (h : WritesDigits cs ds) : digitRun? cs = some ds := by
  induction h with
  | last digit => simp [digitRun?, digitValue?_eq_some_iff.2 digit]
  | @next c d cs ds digit rest ih =>
    obtain ⟨c', d', cs', rfl, digit'⟩ := rest.exists_cons
    rw [digitRun?, ih, digitValue?_eq_some_iff.2 digit]
    · rfl
    · intro _ _ hbar
      exact absurd hbar (digit'.ne (by decide))
  | parted digit rest ih =>
    obtain ⟨c', d', cs', rfl, -⟩ := rest.exists_cons
    rw [digitRun?, ih, digitValue?_eq_some_iff.2 digit]
    rfl

lemma writesDigits_of_digitRun? (h : digitRun? cs = some ds) : WritesDigits cs ds := by
  fun_induction digitRun? cs generalizing ds with
  | case1 => simp at h
  | case2 c =>
    obtain ⟨d, hd, rfl⟩ := Option.map_eq_some_iff.1 h
    exact .last (digitValue?_eq_some_iff.1 hd)
  | case3 c d rest ih =>
    simp only [Option.bind_eq_bind, Option.bind_eq_some_iff, Option.pure_def, Option.some.injEq]
      at h
    obtain ⟨v, hv, vs, hvs, rfl⟩ := h
    exact .parted (digitValue?_eq_some_iff.1 hv) (ih hvs)
  | case4 c d rest hbar ih =>
    simp only [Option.bind_eq_bind, Option.bind_eq_some_iff, Option.pure_def, Option.some.injEq]
      at h
    obtain ⟨v, hv, vs, hvs, rfl⟩ := h
    exact .next (digitValue?_eq_some_iff.1 hv) (ih hvs)

theorem digitRun?_eq_some_iff : digitRun? cs = some ds ↔ WritesDigits cs ds :=
  ⟨writesDigits_of_digitRun?, digitRun?_of_writesDigits⟩

lemma WritesDigits.length_le (h : WritesDigits cs ds) : ds.length ≤ cs.length := by
  induction h with
  | last digit => simp
  | next digit rest ih => simpa using ih
  | parted digit rest ih =>
    simp only [List.length_cons]
    omega

lemma ofDigits_eq (ds : List Nat) : ofDigits ds = Nat.ofDigits 10 ds.reverse := by
  have hfold : ∀ n, ds.foldl (fun n d => 10 * n + d) n =
      Nat.ofDigits 10 ds.reverse + 10 ^ ds.length * n := by
    induction ds with
    | nil => simp
    | cons d rest ih =>
      intro n
      rw [List.foldl_cons, ih, List.reverse_cons, Nat.ofDigits_append, Nat.ofDigits_singleton,
        List.length_reverse, List.length_cons]
      ring
  unfold ofDigits
  simpa using hfold 0

/-! ## Signs and white space -/

lemma WritesDigits.splitSign_eq (h : WritesDigits cs ds) : splitSign cs = (false, cs) := by
  obtain ⟨c, d, rest, rfl, digit⟩ := h.exists_cons
  unfold splitSign
  split
  · next heq => exact absurd (List.cons.inj heq).1 (digit.ne (by decide))
  · next heq => exact absurd (List.cons.inj heq).1 (digit.ne (by decide))
  · rfl

/-- A sign is split off, and what is behind it are the digits. -/
lemma writesSigned_iff : WritesSigned cs negative ds ↔
    (splitSign cs).1 = negative ∧ digitRun? (splitSign cs).2 = some ds := by
  constructor
  · rintro (digits | digits | digits)
    · rw [digits.splitSign_eq]
      exact ⟨rfl, digitRun?_eq_some_iff.2 digits⟩
    · exact ⟨rfl, digitRun?_eq_some_iff.2 digits⟩
    · exact ⟨rfl, digitRun?_eq_some_iff.2 digits⟩
  · rintro ⟨rfl, hdigits⟩
    have digits := digitRun?_eq_some_iff.1 hdigits
    unfold splitSign at digits ⊢
    split at digits
    · exact .minus digits
    · exact .plus digits
    · exact .bare digits

/-- No digit of any script is white space. -/
lemma IsDigitOf.isBlank_eq (h : IsDigitOf c d) : isBlank c = false := by
  obtain ⟨z, hz, hd, hc⟩ := h
  have hbounds : 0x30 ≤ z ∧ (z + 9 < 0x85 ∨ 0xA0 < z) ∧
      (z + 9 < 0x1680 ∨ 0x1680 < z ∧ z + 9 < 0x2000 ∨ 0x3000 < z) := by
    have hall : ∀ z ∈ digitZeros, 0x30 ≤ z ∧ (z + 9 < 0x85 ∨ 0xA0 < z) ∧
        (z + 9 < 0x1680 ∨ 0x1680 < z ∧ z + 9 < 0x2000 ∨ 0x3000 < z) := by decide
    exact hall z hz
  simp only [isBlank, Bool.or_eq_false_iff, Bool.and_eq_false_iff, decide_eq_false_iff_not,
    beq_eq_false_iff_ne]
  omega

lemma WritesDigits.isBlank_eq (h : WritesDigits cs ds) : ∀ c ∈ cs, isBlank c = false := by
  have hbar : isBlank '_' = false := by decide
  induction h with
  | last digit => simpa using digit.isBlank_eq
  | next digit rest ih => simpa [digit.isBlank_eq] using ih
  | parted digit rest ih => simpa [digit.isBlank_eq, hbar] using ih

lemma WritesSigned.isCore (h : WritesSigned cs negative ds) : IsCore cs := by
  have hplus : isBlank '+' = false := by decide
  have hminus : isBlank '-' = false := by decide
  have hblank : ∀ c ∈ cs, isBlank c = false := by
    cases h with
    | bare digits => exact digits.isBlank_eq
    | plus digits => simpa [hplus] using digits.isBlank_eq
    | minus digits => simpa [hminus] using digits.isBlank_eq
  exact ⟨fun c hc => hblank c (List.mem_of_mem_head? hc),
    fun c hc => hblank c (List.mem_of_mem_getLast? hc)⟩

lemma WritesSigned.strip_eq (h : WritesSigned cs negative ds) : strip cs = cs := by
  have hstrip : strip ([] ++ cs ++ []) = cs := strip_around nofun h.isCore nofun
  simpa using hstrip

/-- A text writes one number at most. -/
lemma WritesSigned.unique {negative' : Bool} {ds' : List Nat} (h : WritesSigned cs negative ds)
    (h' : WritesSigned cs negative' ds') : negative = negative' ∧ ds = ds' := by
  obtain ⟨hsign, hdigits⟩ := writesSigned_iff.1 h
  obtain ⟨hsign', hdigits'⟩ := writesSigned_iff.1 h'
  exact ⟨hsign.symm.trans hsign', Option.some.inj (hdigits.symm.trans hdigits')⟩

/-- What has no white space at its ends has no separators there either. -/
lemma stripBy_isSpacing_of_isCore (h : IsCore cs) : stripBy isSpacing cs = cs := by
  have hbegins : cs.dropWhile isSpacing = cs := by
    cases cs with
    | nil => rfl
    | cons c rest =>
      have hblank : isBlank c = false := h.begins c rfl
      simp [isSpacing, hblank]
  have hends : cs.rdropWhile isSpacing = cs := by
    rw [List.rdropWhile_eq_self_iff]
    intro hne
    have hblank := h.ends _ (List.getLast?_eq_getLast_of_ne_nil hne)
    simp [isSpacing, hblank]
  rw [stripBy_eq, hbegins, hends]

/-- What is read from the middle of a text are the numbers that are written there. -/
theorem whole?_strip_eq_some_iff : whole? (strip cs) = some n ↔
    ∃ negative ds, WritesSigned (strip cs) negative ds ∧ ds.length ≤ maxDigits ∧
      n = signed negative (Nat.ofDigits 10 ds.reverse) := by
  unfold whole?
  rw [stripBy_isSpacing_of_isCore (isCore_strip cs)]
  simp only [Option.bind_eq_bind, Option.bind_eq_some_iff, Option.pure_def,
    Option.ite_none_right_eq_some, Option.some.injEq, writesSigned_iff, ofDigits_eq]
  constructor
  · rintro ⟨ds, hdigits, hlength, rfl⟩
    exact ⟨_, ds, ⟨rfl, hdigits⟩, hlength, rfl⟩
  · rintro ⟨negative, ds, ⟨rfl, hdigits⟩, hlength, rfl⟩
    exact ⟨ds, hdigits, hlength, rfl⟩

lemma WritesSigned.length_le (h : WritesSigned cs negative ds) : ds.length ≤ cs.length := by
  cases h with
  | bare digits => exact digits.length_le
  | plus digits => exact Nat.le_succ_of_le digits.length_le
  | minus digits => exact Nat.le_succ_of_le digits.length_le

/-- A text with not too many characters is read as the numbers that it spells. -/
theorem whole?_strip_toList {s : String} (hs : s.length ≤ maxDigits) :
    whole? (strip s.toList) = some n ↔ Spells s n := by
  have htrim : (trim s).toList = strip s.toList := by rw [trim, String.toList_ofList]
  rw [whole?_strip_eq_some_iff]
  constructor
  · rintro ⟨negative, ds, hsigned, -, rfl⟩
    exact ⟨trim s, negative, ds, hasCore_trim s, htrim ▸ hsigned, rfl⟩
  · rintro ⟨core, negative, ds, hcore, hsigned, rfl⟩
    rw [← hcore.trim_eq, htrim] at hsigned
    have hlength : (strip s.toList).length ≤ s.length := by
      obtain ⟨front, back, -, -, hlist⟩ := exists_strip s.toList
      have hsum := congrArg List.length hlist
      rw [String.length_toList, List.length_append, List.length_append] at hsum
      omega
    exact ⟨negative, ds, hsigned, (hsigned.length_le.trans hlength).trans hs, rfl⟩

/-! ## What else can stand in the text -/

/-- A character that the grammar or the white space around it has a place for. -/
def isNumeric (c : Char) : Bool :=
  isBlank c || c == '+' || c == '-' || c == '_' || (digitValue? c).isSome

lemma WritesDigits.isNumeric (h : WritesDigits cs ds) : ∀ c ∈ cs, isNumeric c = true := by
  induction h with
  | last digit => simp [Text.isNumeric, digitValue?_eq_some_iff.2 digit]
  | next digit rest ih => simpa [Text.isNumeric, digitValue?_eq_some_iff.2 digit] using ih
  | parted digit rest ih => simpa [Text.isNumeric, digitValue?_eq_some_iff.2 digit] using ih

lemma WritesSigned.isNumeric (h : WritesSigned cs negative ds) : ∀ c ∈ cs, isNumeric c = true := by
  cases h with
  | bare digits => exact digits.isNumeric
  | plus digits => simpa [Text.isNumeric] using digits.isNumeric
  | minus digits => simpa [Text.isNumeric] using digits.isNumeric

/-- No number is read where a character has no place. -/
theorem whole?_strip_eq_none (hc : c ∈ cs) (h : isNumeric c = false) :
    whole? (strip cs) = none := by
  rw [Option.eq_none_iff_forall_ne_some]
  intro n hn
  obtain ⟨negative, ds, hsigned, -⟩ := whole?_strip_eq_some_iff.1 hn
  obtain ⟨front, back, hfront, hback, hcs⟩ := exists_strip cs
  rw [hcs, List.mem_append, List.mem_append] at hc
  rcases hc with (hc | hc) | hc
  · simp [isNumeric, hfront c hc] at h
  · simp [hsigned.isNumeric c hc] at h
  · simp [isNumeric, hback c hc] at h

end EditorialDesk.Text

/-!
## Numbers written as labels

The label of a whole number writes it in plain digits. Where a whole number is read from
such a label it is the number itself, so that a stage is told by its number.
-/
namespace EditorialDesk
namespace Text

variable {c : Char} {d : Nat} {cs : List Char} {ds : List Nat}

lemma isDigitOf_digitChar (h : d < 10) : IsDigitOf (Nat.digitChar d) d := by
  have hall : ∀ d : Fin 10, digitValue? (Nat.digitChar d.val) = some d.val := by decide
  exact digitValue?_eq_some_iff.1 (hall ⟨d, h⟩)

lemma WritesDigits.concat (h : WritesDigits cs ds) (digit : IsDigitOf c d) :
    WritesDigits (cs ++ [c]) (ds ++ [d]) := by
  induction h with
  | last first => exact .next first (.last digit)
  | next first rest ih => exact .next first ih
  | parted first rest ih => exact .parted first ih

lemma writesDigits_toDigits (n : Nat) :
    ∃ ds, WritesDigits (Nat.toDigits 10 n) ds ∧ Nat.ofDigits 10 ds.reverse = n := by
  induction n using Nat.strongRecOn with
  | ind n ih =>
    rw [Nat.toDigits_eq_if (by decide)]
    split
    · next hn => exact ⟨[n], .last (isDigitOf_digitChar hn), by simp⟩
    · next hn =>
      obtain ⟨ds, hdigits, hvalue⟩ := ih (n / 10) (by omega)
      have hlast : n % 10 < 10 := Nat.mod_lt n (by decide)
      refine ⟨ds ++ [n % 10], hdigits.concat (isDigitOf_digitChar hlast), ?_⟩
      rw [List.reverse_append, List.reverse_singleton, List.singleton_append, Nat.ofDigits_cons,
        hvalue]
      omega

lemma writesSigned_repr (n : Int) : ∃ negative ds, WritesSigned n.repr.toList negative ds ∧
    n = signed negative (Nat.ofDigits 10 ds.reverse) := by
  cases n with
  | ofNat n =>
    obtain ⟨ds, hdigits, hvalue⟩ := writesDigits_toDigits n
    refine ⟨false, ds, .bare ?_, by rw [hvalue]; rfl⟩
    rwa [Int.repr, Nat.toList_repr]
  | negSucc n =>
    obtain ⟨ds, hdigits, hvalue⟩ := writesDigits_toDigits (n + 1)
    have hrepr : (Int.negSucc n).repr.toList = '-' :: Nat.toDigits 10 (n + 1) := by
      rw [Int.repr, String.toList_append, Nat.toList_repr]
      rfl
    exact ⟨true, ds, hrepr ▸ .minus hdigits, by rw [hvalue]; rfl⟩

/-- The number that is read from the label of a number is that number. -/
theorem eq_of_whole?_repr {n m : Int} (h : whole? (strip n.repr.toList) = some m) : m = n := by
  obtain ⟨negative, ds, hwrites, hn⟩ := writesSigned_repr n
  obtain ⟨negative', ds', hread, -, hm⟩ := whole?_strip_eq_some_iff.1 h
  rw [hwrites.strip_eq] at hread
  obtain ⟨rfl, rfl⟩ := hwrites.unique hread
  exact hm.trans hn.symm

end Text

namespace Stage

variable {n : Int} {stage : Stage}

lemma ofCode?_eq_some_iff : ofCode? n = some stage ↔ stage.code = n := by
  constructor
  · intro h
    simpa using List.find?_some h
  · rintro rfl
    exact ofCode?_code stage

theorem ofValue?_code (stage : Stage) : ofValue? (.int stage.code) = some stage := by
  cases stage <;> decide

theorem ofValue?_int (h : ofValue? (.int n) = some stage) : n = stage.code := by
  change (Text.whole? (Text.strip n.repr.toList)).bind ofCode? = some stage at h
  obtain ⟨m, hm, hcode⟩ := Option.bind_eq_some_iff.1 h
  rw [← Text.eq_of_whole?_repr hm, ofCode?_eq_some_iff.1 hcode]

theorem ofValue?_int_eq_some_iff : ofValue? (.int n) = some stage ↔ n = stage.code := by
  constructor
  · exact ofValue?_int
  · rintro rfl
    exact ofValue?_code stage

end Stage
end EditorialDesk
