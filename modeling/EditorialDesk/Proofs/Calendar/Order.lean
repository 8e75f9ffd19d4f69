import EditorialDesk.Proofs.Calendar.Column
import Mathlib.Algebra.Group.Nat.Defs
import Mathlib.Tactic.ByContra
import Mathlib.Tactic.Tauto

/-!
# The order of dates

Dates are compared as days of the calendar. That is how their years, months and days are
ordered, and as these are written with as many digits in every date, it is also the order
of their texts, which are compared character by character.
-/
namespace EditorialDesk

/-- Of texts with heads of one length the heads are compared first. -/
lemma append_lt_append_iff {xs ys as bs : List Char} (h : xs.length = ys.length) :
    xs ++ as < ys ++ bs ↔ xs < ys ∨ xs = ys ∧ as < bs := by
  induction xs generalizing ys with
  | nil =>
    obtain rfl := List.length_eq_zero_iff.1 h.symm
    simp
  | cons x xs ih =>
    cases ys with
    | nil => cases h
    | cons y ys =>
      have hrest := ih (Nat.succ.inj h)
      simp only [List.cons_append, List.cons_lt_cons_iff, hrest, List.cons.injEq]
      tauto

lemma ofList_lt_ofList_iff {as bs : List Char} : String.ofList as < String.ofList bs ↔ as < bs := by
  change (String.ofList as).toList < (String.ofList bs).toList ↔ _
  rw [String.toList_ofList, String.toList_ofList]

lemma digitChar_lt_iff {d e : Nat} (hd : d < 10) (he : e < 10) :
    Nat.digitChar d < Nat.digitChar e ↔ d < e := by
  have hall : ∀ d e : Fin 10, Nat.digitChar d.val < Nat.digitChar e.val ↔ d.val < e.val := by
    decide
  exact hall ⟨d, hd⟩ ⟨e, he⟩

lemma digitChar_inj {d e : Nat} (hd : d < 10) (he : e < 10) :
    Nat.digitChar d = Nat.digitChar e ↔ d = e := by
  have hall : ∀ d e : Fin 10, Nat.digitChar d.val = Nat.digitChar e.val ↔ d.val = e.val := by
    decide
  exact hall ⟨d, hd⟩ ⟨e, he⟩

lemma padded_inj {width n m : Nat} (hn : n < 10 ^ width) (hm : m < 10 ^ width) :
    padded width n = padded width m ↔ n = m := by
  induction width generalizing n m with
  | zero =>
    rw [Nat.pow_zero] at hn hm
    exact iff_of_true rfl (by omega)
  | succ width ih =>
    rw [Nat.pow_succ] at hn hm
    have hn' : n / 10 < 10 ^ width := Nat.div_lt_of_lt_mul (by rwa [Nat.mul_comm])
    have hm' : m / 10 < 10 ^ width := Nat.div_lt_of_lt_mul (by rwa [Nat.mul_comm])
    constructor
    · intro h
      obtain ⟨htens, hones⟩ := List.append_inj' h rfl
      have htens := (ih hn' hm').1 htens
      have hones := (digitChar_inj (Nat.mod_lt n (by decide)) (Nat.mod_lt m (by decide))).1
        (List.singleton_inj.1 hones)
      omega
    · rintro rfl
      rfl

/-- Numbers that fit are ordered as their digits are. -/
lemma padded_lt_iff {width n m : Nat} (hn : n < 10 ^ width) (hm : m < 10 ^ width) :
    padded width n < padded width m ↔ n < m := by
  induction width generalizing n m with
  | zero =>
    rw [Nat.pow_zero] at hn hm
    exact iff_of_false (List.lt_irrefl _) (by omega)
  | succ width ih =>
    rw [Nat.pow_succ] at hn hm
    have hn' : n / 10 < 10 ^ width := Nat.div_lt_of_lt_mul (by rwa [Nat.mul_comm])
    have hm' : m / 10 < 10 ^ width := Nat.div_lt_of_lt_mul (by rwa [Nat.mul_comm])
    rw [padded, padded, append_lt_append_iff (by simp), ih hn' hm', padded_inj hn' hm',
      List.cons_lt_cons_iff,
      digitChar_lt_iff (Nat.mod_lt _ (by decide)) (Nat.mod_lt _ (by decide))]
    simp only [List.lt_irrefl, and_false, or_false]
    omega

namespace Calendar

/-- Year, month and day in their order of weight. -/
def Civil.Precedes (c c' : Civil) : Prop :=
  c.year < c'.year ∨ c.year = c'.year ∧
    (c.month < c'.month ∨ c.month = c'.month ∧ c.day < c'.day)

/-- The days before a year by the years that are past: a leap day in every fourth, but in the
hundredth only if it is also the four-hundredth. -/
lemma daysBeforeYear_eq (past : Nat) :
    daysBeforeYear (past + 1) = 365 * past + (past / 4 - past / 4 / 25) + past / 4 / 25 / 4 := by
  have hhundred : past / 4 / 25 = past / 100 := Nat.div_div_eq_div_mul past 4 25
  have hfour : past / 4 / 25 / 4 = past / 400 := by rw [hhundred, Nat.div_div_eq_div_mul]
  simp only [daysBeforeYear, Nat.add_sub_cancel]
  omega

lemma daysBeforeYear_succ {y : Nat} (hy : 0 < y) :
    daysBeforeYear (y + 1) = daysBeforeYear y + 365 + if isLeap y then 1 else 0 := by
  obtain ⟨past, rfl⟩ : ∃ past, y = past + 1 := ⟨y - 1, by omega⟩
  rw [daysBeforeYear_eq, daysBeforeYear_eq]
  simp only [isLeap, Bool.and_eq_true, Bool.or_eq_true, beq_iff_eq, bne_iff_ne]
  split <;> omega

lemma daysBeforeYear_mono {y y' : Nat} (h : y ≤ y') : daysBeforeYear y ≤ daysBeforeYear y' := by
  cases y with
  | zero => simp [daysBeforeYear]
  | succ y =>
    obtain ⟨past, rfl⟩ : ∃ past, y' = past + 1 := ⟨y' - 1, by omega⟩
    rw [daysBeforeYear_eq, daysBeforeYear_eq]
    omega

lemma yearOf_bounds (n : Nat) : daysBeforeYear (Date.yearOf n).1 ≤ n ∧
    n < daysBeforeYear ((Date.yearOf n).1 + 1) := by
  have hday := daysBeforeYear_yearOf n
  have hlast := yearOf_snd_lt n
  rw [daysBeforeYear_succ (yearOf_pos n)]
  omega

lemma yearOf_mono {n m : Nat} (h : n ≤ m) : (Date.yearOf n).1 ≤ (Date.yearOf m).1 := by
  by_contra hlater
  have hyear := daysBeforeYear_mono
    (show (Date.yearOf m).1 + 1 ≤ (Date.yearOf n).1 from Nat.lt_of_not_le hlater)
  have hn := (yearOf_bounds n).1
  have hm := (yearOf_bounds m).2
  omega

lemma daysBeforeMonth_mono (leap : Bool) {m m' : Nat} (h : m ≤ m') (hm : m' ≤ 13) :
    daysBeforeMonth leap m ≤ daysBeforeMonth leap m' := by
  have hall : ∀ leap : Bool, ∀ m' ≤ 13, ∀ m ≤ m',
      daysBeforeMonth leap m ≤ daysBeforeMonth leap m' := by decide
  exact hall leap m' hm m h

/-- Days of the calendar follow each other as their years, months and days do. -/
lemma Date.precedes_of_lt {a b : Date} (h : a < b) : a.civil.Precedes b.civil := by
  have hlt : a.index.val < b.index.val := h
  obtain ⟨-, hma, hda, hlasta, ha⟩ := a.civil_spec
  obtain ⟨-, hmb, hdb, hlastb, hb⟩ := b.civil_spec
  have hyears : a.civil.year ≤ b.civil.year := yearOf_mono (Nat.le_of_lt hlt)
  rcases Nat.lt_or_eq_of_le hyears with hyear | hyear
  · exact .inl hyear
  refine .inr ⟨hyear, ?_⟩
  rw [hyear] at ha hlasta
  have hmonth : a.civil.month ≤ b.civil.month := by
    by_contra hlater
    have hmono := daysBeforeMonth_mono (isLeap b.civil.year)
      (show b.civil.month + 1 ≤ a.civil.month by omega) (Nat.le_succ_of_le hma)
    omega
  rcases Nat.lt_or_eq_of_le hmonth with hmonth | hmonth
  · exact .inl hmonth
  refine .inr ⟨hmonth, ?_⟩
  rw [hmonth] at ha
  omega

lemma Date.civil_fits (d : Date) :
    d.civil.year < 10 ^ 4 ∧ d.civil.month < 10 ^ 2 ∧ d.civil.day < 10 ^ 2 := by
  obtain ⟨-, hmonth, -, hlast, -⟩ := d.civil_spec
  have hyear : d.civil.year ≤ 9999 := yearOf_le d.index.isLt
  have hdays : ∀ leap : Bool, ∀ month ≤ 12,
      daysBeforeMonth leap (month + 1) ≤ daysBeforeMonth leap month + 31 := by decide
  have hday := hdays (isLeap d.civil.year) _ hmonth
  omega

lemma Date.text_lt_iff_precedes {a b : Date} : a.text < b.text ↔ a.civil.Precedes b.civil := by
  obtain ⟨hya, hma, hda⟩ := a.civil_fits
  obtain ⟨hyb, hmb, hdb⟩ := b.civil_fits
  rw [Date.text, Date.text, ofList_lt_ofList_iff, Civil.chars, Civil.chars, List.append_assoc,
    List.append_assoc,
    append_lt_append_iff (by simp), padded_lt_iff hya hyb, padded_inj hya hyb, List.cons_append,
    List.cons_append, List.cons_lt_cons_iff, append_lt_append_iff (by simp), padded_lt_iff hma hmb,
    padded_inj hma hmb, List.cons_lt_cons_iff, padded_lt_iff hda hdb]
  simp [Civil.Precedes]

lemma Civil.Precedes.asymm {c c' : Civil} (h : c.Precedes c') : ¬c'.Precedes c := by
  unfold Precedes at *
  omega

/-- The texts of dates are ordered, character by character, as the dates are. -/
theorem Date.text_lt_iff {a b : Date} : a.text < b.text ↔ a < b := by
  rw [text_lt_iff_precedes]
  refine ⟨fun h => ?_, precedes_of_lt⟩
  by_contra hle
  rcases Nat.lt_or_eq_of_le (Nat.le_of_not_lt hle : b.index.val ≤ a.index.val) with hlt | heq
  · exact h.asymm (precedes_of_lt hlt)
  · obtain rfl : b = a := by
      cases a
      cases b
      exact congrArg Date.mk (Fin.ext heq)
    exact h.asymm h

end Calendar
end EditorialDesk

/-!
## The order of moments in columns

Moments in UTC are ordered in columns as they are in time, although a column leaves a
fraction of no microseconds out: then the plus sign of the offset stands where another
text has its point, and it comes before the point.
-/
namespace EditorialDesk

/-- Of texts with a number of so many digits in front the numbers are compared first. -/
lemma padded_append_lt_iff {width n m : Nat} (hn : n < 10 ^ width) (hm : m < 10 ^ width)
    {as bs : List Char} :
    padded width n ++ as < padded width m ++ bs ↔ n < m ∨ n = m ∧ as < bs := by
  rw [append_lt_append_iff (by simp), padded_lt_iff hn hm, padded_inj hn hm]

lemma cons_lt_cons_self_iff {c : Char} {as bs : List Char} : c :: as < c :: bs ↔ as < bs := by
  simp only [List.cons_lt_cons_iff, Char.lt_irrefl, true_and, false_or]

namespace Calendar

lemma fractionChars_lt_iff {f g : Nat} (hf : f < secondTicks) (hg : g < secondTicks)
    (rest : List Char) :
    fractionChars f ++ '+' :: rest < fractionChars g ++ '+' :: rest ↔ f < g := by
  have hsign : '+' < '.' := by decide
  have hpoint : ¬ '.' < '+' ∧ ¬ '.' = '+' := by decide
  have hfits : f < 10 ^ 6 ∧ g < 10 ^ 6 := ⟨hf, hg⟩
  unfold fractionChars
  by_cases hf0 : f = 0 <;> by_cases hg0 : g = 0
  · simp [hf0, hg0]
  · subst hf0
    simp [hg0, hsign, Nat.pos_iff_ne_zero, List.cons_lt_cons_iff]
  · subst hg0
    simp only [beq_iff_eq, hf0, if_true, if_false, List.cons_append, List.nil_append,
      List.cons_lt_cons_iff, hpoint, false_and, or_self, Nat.not_lt_zero]
  · simp only [beq_iff_eq, hf0, hg0, if_false, List.cons_append, cons_lt_cons_self_iff,
      padded_append_lt_iff hfits.1 hfits.2, List.lt_irrefl, and_false, or_false]

/-- Times of day in front of a plus sign are ordered as they follow each other. -/
lemma clockChars_lt_iff (m m' : Moment) (rest : List Char) :
    m.clockChars ++ '+' :: rest < m'.clockChars ++ '+' :: rest ↔
      m.ticks.val % dayTicks < m'.ticks.val % dayTicks := by
  have hmicros : ∀ t : Nat, t % secondTicks < secondTicks := fun t => Nat.mod_lt t (by decide)
  have hfits : ∀ t : Nat, t % dayTicks / secondTicks / 3600 < 10 ^ 2 ∧
      t % dayTicks / secondTicks / 60 % 60 < 10 ^ 2 ∧ t % dayTicks / secondTicks % 60 < 10 ^ 2 := by
    intro t
    unfold dayTicks secondTicks
    omega
  obtain ⟨hhour, hminute, hsecond⟩ := hfits m.ticks.val
  obtain ⟨hhour', hminute', hsecond'⟩ := hfits m'.ticks.val
  unfold Moment.clockChars
  simp only [List.append_assoc, List.cons_append, padded_append_lt_iff hhour hhour',
    padded_append_lt_iff hminute hminute', padded_append_lt_iff hsecond hsecond',
    cons_lt_cons_self_iff, fractionChars_lt_iff (hmicros _) (hmicros _)]
  unfold dayTicks secondTicks
  omega

lemma Date.chars_lt_iff {a b : Date} : a.civil.chars < b.civil.chars ↔ a < b := by
  rw [← ofList_lt_ofList_iff]
  exact text_lt_iff

lemma Date.chars_inj {a b : Date} : a.civil.chars = b.civil.chars ↔ a = b := by
  constructor
  · intro h
    have hread := readCivil?_chars a []
    rw [h, readCivil?_chars] at hread
    have hcivil : b.civil = a.civil := (Prod.mk.inj (Option.some.inj hread)).1
    have hdate := a.ofCivil?_civil
    rw [← hcivil, b.ofCivil?_civil] at hdate
    exact (Option.some.inj hdate).symm
  · rintro rfl
    rfl

/-- Moments in UTC are ordered in columns, character by character, as they are in time. -/
theorem Moment.columnText_lt_iff {m m' : Moment} (h : m.offset = some .utc)
    (h' : m'.offset = some .utc) : m.columnText < m'.columnText ↔ m.ticks < m'.ticks := by
  have hutc : Offset.utc.columnChars = ['+', '0', '0', ':', '0', '0'] := by decide
  have hwidth : m.date.civil.chars.length = m'.date.civil.chars.length := by simp [Civil.chars]
  have hlt : m.date < m'.date ↔ m.ticks.val / dayTicks < m'.ticks.val / dayTicks := Iff.rfl
  have heq : m.date = m'.date ↔ m.ticks.val / dayTicks = m'.ticks.val / dayTicks := by
    rw [Moment.date, Moment.date, Date.mk.injEq, Fin.mk.injEq]
  rw [columnText, columnText, ofList_lt_ofList_iff, chars, chars, h, h']
  simp only [hutc, List.append_assoc, List.cons_append, append_lt_append_iff hwidth,
    cons_lt_cons_self_iff, clockChars_lt_iff, Date.chars_lt_iff, Date.chars_inj, hlt, heq]
  rw [Fin.lt_def]
  unfold dayTicks
  omega

end Calendar
end EditorialDesk
