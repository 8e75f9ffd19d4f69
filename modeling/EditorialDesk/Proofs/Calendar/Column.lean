import EditorialDesk.Calendar.Reader
import Mathlib.Tactic.Lemma

/-!
# Moments in columns

A moment that is written into a column can be read back from it, to the microsecond,
unless its offset has parts of a minute. The date goes through year, month and day: the
year of a day is found by cycles, its month by the days in front of it, and both lead back
to the day.
-/
namespace EditorialDesk

lemma plainDigit?_digitChar {d : Nat} (h : d < 10) :
    Text.plainDigit? (Nat.digitChar d) = some d := by
  have hall : ∀ d : Fin 10, Text.plainDigit? (Nat.digitChar d.val) = some d.val := by decide
  exact hall ⟨d, h⟩

lemma padded_two (n : Nat) :
    padded 2 n = [Nat.digitChar (n / 10 % 10), Nat.digitChar (n % 10)] := rfl

lemma padded_four (n : Nat) : padded 4 n = padded 2 (n / 100) ++ padded 2 n := by
  simp only [padded, List.nil_append, List.cons_append, Nat.div_div_eq_div_mul]

namespace Calendar

lemma readTwo?_padded {n : Nat} (h : n < 100) (rest : List Char) :
    readTwo? (padded 2 n ++ rest) = some (n, rest) := by
  have hten : n / 10 % 10 < 10 := Nat.mod_lt _ (by decide)
  have hone : n % 10 < 10 := Nat.mod_lt _ (by decide)
  rw [padded_two]
  simp only [readTwo?, List.cons_append, List.nil_append, plainDigit?_digitChar hten,
    plainDigit?_digitChar hone, Option.bind_eq_bind, Option.bind_some, pure]
  congr 2
  omega

lemma microsOf_padded {n : Nat} (h : n < secondTicks) : microsOf (padded 6 n) = n := by
  have hd (k : Nat) : Text.plainDigit? (Nat.digitChar (k % 10)) = some (k % 10) :=
    plainDigit?_digitChar (Nat.mod_lt _ (by decide))
  have htake : (padded 6 n ++ List.replicate 6 '0').take 6 = padded 6 n := by
    rw [List.take_append_of_le_length (by simp), List.take_of_length_le (by simp)]
  unfold microsOf
  rw [htake]
  simp only [padded, List.nil_append, List.cons_append, Text.plainValue, List.filterMap_cons, hd,
    List.filterMap_nil, Text.ofDigits, List.foldl_cons, List.foldl_nil]
  unfold secondTicks at h
  omega

/-- What can stand behind a time: nothing, an offset with its sign, or the letter of UTC. -/
def EndsTime (rest : List Char) : Prop := ∀ c ∈ rest.head?, c = '+' ∨ c = '-' ∨ c = 'Z'

/-- The digits of a fraction end where the offset begins. -/
lemma plainRun_padded (n : Nat) {rest : List Char} (hrest : EndsTime rest) :
    Text.plainRun (padded 6 n ++ rest) = (padded 6 n, rest) := by
  have hd : ∀ c ∈ padded 6 n, (Text.plainDigit? c).isSome = true := by
    intro c hc
    simp only [padded, List.nil_append, List.cons_append, List.mem_cons, List.not_mem_nil,
      or_false] at hc
    rcases hc with rfl | rfl | rfl | rfl | rfl | rfl <;>
      simp [plainDigit?_digitChar (Nat.mod_lt _ (show 0 < 10 by decide))]
  unfold Text.plainRun
  rw [List.takeWhile_append_of_pos hd, List.dropWhile_append_of_pos hd]
  cases rest with
  | nil => simp
  | cons c tail =>
    have hsign : (Text.plainDigit? c).isSome = false := by
      rcases hrest c rfl with rfl | rfl | rfl <;> decide
    rw [List.takeWhile_cons, List.dropWhile_cons, hsign]
    simp

lemma readMicros?_fractionChars {n : Nat} (h : n < secondTicks) {rest : List Char}
    (hrest : EndsTime rest) : readMicros? (fractionChars n ++ rest) = some (n, rest) := by
  unfold fractionChars
  by_cases hn : n = 0
  · subst hn
    cases rest with
    | nil => rfl
    | cons c tail => rcases hrest c rfl with rfl | rfl | rfl <;> simp [readMicros?]
  · have hne : (padded 6 n).isEmpty = false := by
      rw [List.isEmpty_eq_false_iff, ← List.length_pos_iff, length_padded]
      decide
    simp [hn, readMicros?, plainRun_padded n hrest, hne, microsOf_padded h]

/-- The cycles of 400, 100, 4 and 1 years that are over on a day. A cycle has its leap day at the
end, and only there can 365 days of the year be over. -/
lemma yearOf_spec (n : Nat) : ∃ q c d a r : Nat,
    Date.yearOf n = (400 * q + 100 * c + 4 * d + a + 1, r) ∧
      n = 146097 * q + 36524 * c + 1461 * d + 365 * a + r ∧ c ≤ 3 ∧ d ≤ 24 ∧ a ≤ 3 ∧
        r ≤ 365 ∧ (r = 365 → a = 3 ∧ (d = 24 → c = 3)) := by
  refine ⟨_, _, _, _, _, rfl, ?_⟩
  omega

lemma daysBeforeYear_yearOf (n : Nat) :
    daysBeforeYear (Date.yearOf n).1 + (Date.yearOf n).2 = n := by
  obtain ⟨q, c, d, a, r, hyear, hn, hc, hd, ha, -, -⟩ := yearOf_spec n
  rw [hyear]
  simp only [daysBeforeYear, Nat.add_sub_cancel]
  omega

lemma yearOf_snd_lt (n : Nat) :
    (Date.yearOf n).2 < 365 + if isLeap (Date.yearOf n).1 then 1 else 0 := by
  obtain ⟨q, c, d, a, r, hyear, -, hc, hd, ha, hr, hleap⟩ := yearOf_spec n
  rw [hyear]
  simp only [isLeap, Bool.and_eq_true, Bool.or_eq_true, beq_iff_eq, bne_iff_ne]
  split
  · omega
  · omega

lemma yearOf_pos (n : Nat) : 0 < (Date.yearOf n).1 := by
  simp only [Date.yearOf]
  omega

lemma yearOf_le {n : Nat} (h : n < dayCount) : (Date.yearOf n).1 ≤ 9999 := by
  have hn := daysBeforeYear_yearOf n
  simp only [daysBeforeYear, dayCount] at hn h
  omega

/-- A day of the year lies in its month. -/
lemma monthOf_spec (leap : Bool) {day : Nat} (h : day < 365 + if leap then 1 else 0) :
    1 ≤ Date.monthOf leap day ∧ Date.monthOf leap day ≤ 12 ∧
      daysBeforeMonth leap (Date.monthOf leap day) ≤ day ∧
        day < daysBeforeMonth leap (Date.monthOf leap day + 1) := by
  have hall : ∀ leap : Bool, ∀ day < 365 + if leap then 1 else 0,
      1 ≤ Date.monthOf leap day ∧ Date.monthOf leap day ≤ 12 ∧
        daysBeforeMonth leap (Date.monthOf leap day) ≤ day ∧
          day < daysBeforeMonth leap (Date.monthOf leap day + 1) := by
    decide +kernel
  exact hall leap day h

/-- Year, month and day of a date: the day lies in the month, and with the days in front of the
month and of the year it makes the date. -/
lemma Date.civil_spec (d : Date) :
    1 ≤ d.civil.month ∧ d.civil.month ≤ 12 ∧ 1 ≤ d.civil.day ∧
      daysBeforeMonth (isLeap d.civil.year) d.civil.month + d.civil.day ≤
        daysBeforeMonth (isLeap d.civil.year) (d.civil.month + 1) ∧
      daysBeforeYear d.civil.year + daysBeforeMonth (isLeap d.civil.year) d.civil.month +
        d.civil.day = d.index.val + 1 := by
  obtain ⟨hlow, hhigh, hfrom, hto⟩ := monthOf_spec _ (yearOf_snd_lt d.index.val)
  have hn := daysBeforeYear_yearOf d.index.val
  simp only [Date.civil]
  omega

lemma Date.isReal_civil (d : Date) : d.civil.isReal = true := by
  obtain ⟨hlow, hhigh, hday, hlast, -⟩ := d.civil_spec
  have hin : d.civil.day ≤ daysInMonth (isLeap d.civil.year) d.civil.month := by
    unfold daysInMonth
    omega
  simp only [Civil.isReal, hlow, hhigh, hday, hin, decide_true, Bool.and_self]

lemma Date.index_civil (d : Date) : d.civil.index = d.index.val := by
  obtain ⟨-, -, hday, -, hindex⟩ := d.civil_spec
  unfold Civil.index
  omega

theorem Date.ofCivil?_civil (d : Date) : Date.ofCivil? d.civil = some d := by
  have hyear : d.civil.year ≠ 0 := Nat.pos_iff_ne_zero.1 (yearOf_pos d.index.val)
  have hindex : d.civil.index < dayCount := by
    rw [d.index_civil]
    exact d.index.isLt
  unfold Date.ofCivil?
  rw [if_pos (by simp [hyear, d.isReal_civil]), dif_pos hindex]
  simp [d.index_civil]

lemma readCivil?_chars (d : Date) (rest : List Char) :
    readCivil? (d.civil.chars ++ rest) = some (d.civil, rest) := by
  obtain ⟨-, hmonth, -, hlast, -⟩ := d.civil_spec
  have hyear : d.civil.year ≤ 9999 := yearOf_le d.index.isLt
  have hday : d.civil.day < 100 := by
    have hdays : ∀ leap : Bool, ∀ month ≤ 12,
        daysBeforeMonth leap (month + 1) ≤ daysBeforeMonth leap month + 31 := by decide
    have hle := hdays (isLeap d.civil.year) _ hmonth
    omega
  have hyears : 100 * (d.civil.year / 100) + d.civil.year % 100 = d.civil.year :=
    Nat.div_add_mod _ _
  have hlow : padded 2 d.civil.year = padded 2 (d.civil.year % 100) := by
    have hten : d.civil.year % 100 / 10 % 10 = d.civil.year / 10 % 10 := by omega
    have hone : d.civil.year % 100 % 10 = d.civil.year % 10 := by omega
    rw [padded_two, padded_two, hten, hone]
  unfold Civil.chars readCivil?
  rw [padded_four, hlow]
  simp only [List.append_assoc, List.cons_append, Option.bind_eq_bind,
    readTwo?_padded (show d.civil.year / 100 < 100 by omega), Option.bind_some,
    readTwo?_padded (Nat.mod_lt d.civil.year (show 0 < 100 by decide)),
    readTwo?_padded (show d.civil.month < 100 by omega), readTwo?_padded hday, hyears,
    d.isReal_civil, if_true, pure]

lemma readTime?_clockChars (m : Moment) {rest : List Char} (hrest : EndsTime rest) :
    readTime? (m.clockChars ++ rest) = some (m.ticks.val % dayTicks, rest) := by
  have hmicros : m.ticks.val % secondTicks < secondTicks := Nat.mod_lt _ (by decide)
  have hseconds : m.ticks.val % dayTicks / secondTicks < 86400 := by
    unfold dayTicks secondTicks
    omega
  have hsum : (60 * (m.ticks.val % dayTicks / secondTicks / 3600) +
      m.ticks.val % dayTicks / secondTicks / 60 % 60) * minuteTicks +
        m.ticks.val % dayTicks / secondTicks % 60 * secondTicks +
          m.ticks.val % secondTicks = m.ticks.val % dayTicks := by
    unfold dayTicks secondTicks minuteTicks
    omega
  unfold Moment.clockChars readTime?
  generalize m.ticks.val % dayTicks / secondTicks = seconds at hseconds hsum
  have hhour : seconds / 3600 < 24 := by omega
  have hminute : seconds / 60 % 60 < 60 := Nat.mod_lt _ (by decide)
  have hsecond : seconds % 60 < 60 := Nat.mod_lt _ (by decide)
  simp only [List.append_assoc, List.cons_append, Option.bind_eq_bind,
    readTwo?_padded (show seconds / 3600 < 100 by omega),
    readTwo?_padded (show seconds / 60 % 60 < 100 by omega),
    readTwo?_padded (show seconds % 60 < 100 by omega), Option.bind_some,
    readMicros?_fractionChars hmicros hrest, pure, hsum]
  rw [if_neg (by simp; omega), if_neg (by simp; omega)]

lemma clock?_val (ticks : Fin clockSpan) : clock? (ticks.val : Int) = some ticks := by
  unfold clock?
  split
  · exact congrArg some (Fin.ext (Int.toNat_natCast _))
  · next h => exact absurd ⟨Int.natCast_nonneg _, Int.ofNat_lt.2 ticks.isLt⟩ h

lemma Moment.ofDay?_date (m : Moment) :
    Moment.ofDay? m.date (m.ticks.val % dayTicks) m.offset = some m := by
  have hday : m.date.index.val = m.ticks.val / dayTicks := rfl
  have hticks : m.date.index.val * dayTicks + m.ticks.val % dayTicks = m.ticks.val := by
    rw [hday, Nat.mul_comm, Nat.div_add_mod]
  unfold Moment.ofDay?
  rw [← Int.natCast_mul, ← Int.natCast_add, hticks, clock?_val, Option.map_some]

/-- An offset in whole minutes, which is as far as a text is read. -/
def Offset.InMinutes (o : Offset) : Prop := o.ticks.natAbs % minuteTicks = 0

lemma Offset.ofTicks?_ticks (o : Offset) : Offset.ofTicks? o.ticks = some o := dif_pos o.bounded

lemma readOffsetMinutes?_padded {minutes : Nat} (h : minutes < 1440) :
    readOffsetMinutes? (padded 2 (minutes / 60) ++ ':' :: padded 2 (minutes % 60)) =
      some minutes := by
  have hminutes : readTwo? (padded 2 (minutes % 60)) = some (minutes % 60, []) := by
    rw [← List.append_nil (padded 2 (minutes % 60))]
    exact readTwo?_padded (by omega) []
  have hhours : minutes / 60 ≤ 23 := by omega
  have hrest : minutes % 60 ≤ 59 := by omega
  simp only [readOffsetMinutes?, Option.bind_eq_bind,
    readTwo?_padded (show minutes / 60 < 100 by omega), Option.bind_some, hminutes,
    List.isEmpty_nil, hhours, hrest, decide_true, Bool.and_self, if_true, pure]
  rw [Nat.div_add_mod]

/-- An offset is read by its sign. What it comes to is a variable here: the kernel would otherwise
take the microseconds of a minute apart. -/
lemma readOffset?_plus {o : Offset} {minutes : Nat} {cs : List Char}
    (hread : readOffsetMinutes? cs = some minutes) {ticks : Int}
    (hticks : (minutes : Int) * minuteTicks = ticks) (hself : Offset.ofTicks? ticks = some o) :
    readOffset? ('+' :: cs) = some (some o) := by
  have hstep : readOffset? ('+' :: cs) = (readOffsetMinutes? cs).bind fun minutes =>
      (Offset.ofTicks? (minutes * minuteTicks)).bind fun o => some (some o) := rfl
  rw [hstep, hread, Option.bind_some, hticks, hself, Option.bind_some]

lemma readOffset?_minus {o : Offset} {minutes : Nat} {cs : List Char}
    (hread : readOffsetMinutes? cs = some minutes) {ticks : Int}
    (hticks : -((minutes * minuteTicks : Nat) : Int) = ticks)
    (hself : Offset.ofTicks? ticks = some o) : readOffset? ('-' :: cs) = some (some o) := by
  have hstep : readOffset? ('-' :: cs) = (readOffsetMinutes? cs).bind fun minutes =>
      (Offset.ofTicks? (-(minutes * minuteTicks : Nat))).bind fun o => some (some o) := rfl
  rw [hstep, hread, Option.bind_some, hticks, hself, Option.bind_some]

lemma readOffset?_columnChars {o : Offset} (ho : o.InMinutes) :
    readOffset? o.columnChars = some (some o) := by
  obtain ⟨hlow, hhigh⟩ := o.bounded
  have hzero : (o.ticks.natAbs % minuteTicks == 0) = true := beq_iff_eq.2 ho
  have hminutes : o.ticks.natAbs / minuteTicks < 1440 := by
    unfold minuteTicks dayTicks at *
    omega
  have hticks : o.ticks.natAbs / minuteTicks * minuteTicks = o.ticks.natAbs :=
    Nat.div_mul_cancel (Nat.dvd_of_mod_eq_zero ho)
  have hread := readOffsetMinutes?_padded hminutes
  have hchars : o.columnChars = (if o.ticks < 0 then '-' else '+') ::
      (padded 2 (o.ticks.natAbs / minuteTicks / 60) ++
        ':' :: padded 2 (o.ticks.natAbs / minuteTicks % 60)) := by
    unfold Offset.columnChars Offset.minuteChars
    simp only [hzero, if_true, List.append_nil, decide_eq_true_eq]
    rfl
  rw [hchars]
  by_cases hneg : o.ticks < 0
  · rw [if_pos hneg]
    refine readOffset?_minus hread ?_ o.ofTicks?_ticks
    rw [hticks]
    omega
  · rw [if_neg hneg]
    refine readOffset?_plus hread ?_ o.ofTicks?_ticks
    rw [← Int.natCast_mul, hticks]
    omega

/-- A moment that can be read back: without an offset, or with one in whole minutes. -/
def Moment.IsReadable (m : Moment) : Prop := ∀ o ∈ m.offset, o.InMinutes

lemma Moment.isReadable_of_utc {m : Moment} (h : m.offset = some .utc) : m.IsReadable := by
  intro o ho
  rw [h] at ho
  obtain rfl := Option.some.inj ho
  rfl

lemma endsTime_columnChars (o : Offset) : EndsTime o.columnChars := by
  intro c hc
  have hsign : (if o.ticks < 0 then '-' else '+') = c := by
    unfold Offset.columnChars Offset.minuteChars at hc
    simpa using hc
  rw [← hsign]
  split
  · exact .inr (.inl rfl)
  · exact .inl rfl

/-- A moment is taken apart into what it was written of, in whatever form its offset is written, as
long as that is read back. -/
lemma readDated?_chars {m : Moment} {offsetChars : Offset → List Char}
    (hends : ∀ o ∈ m.offset, EndsTime (offsetChars o))
    (hread : ∀ o ∈ m.offset, readOffset? (offsetChars o) = some (some o)) :
    readDated? (m.chars offsetChars) =
      some (m.date.civil, m.ticks.val % dayTicks, m.offset) := by
  unfold readDated? Moment.chars
  cases hoffset : m.offset with
  | none =>
    simp only [List.append_assoc, List.cons_append, readCivil?_chars, Option.bind_eq_bind,
      Option.bind_some, beq_self_eq_true, Bool.true_or, if_true]
    rw [readTime?_clockChars m (show EndsTime [] from nofun)]
    rfl
  | some o =>
    simp only [List.append_assoc, List.cons_append, readCivil?_chars, Option.bind_eq_bind,
      Option.bind_some, beq_self_eq_true, Bool.true_or, if_true,
      readTime?_clockChars m (hends o hoffset), hread o hoffset, pure]

lemma readMoment_of_readDated? {s : String} {c : Civil} {ticks : Nat} {offset : Option Offset}
    {d : Date} {m : Moment} (hs : readDated? s.toList = some (c, ticks, offset))
    (hd : Date.ofCivil? c = some d) (hm : Moment.ofDay? d ticks offset = some m) :
    readMoment s = .moment m := by
  have hbind : (Date.ofCivil? c).bind (Moment.ofDay? · ticks offset) = some m := by
    rw [hd, Option.bind_some, hm]
  unfold readMoment
  generalize readDated? s.toList = read at hs
  subst hs
  dsimp only
  generalize (Date.ofCivil? c).bind (Moment.ofDay? · ticks offset) = found at hbind
  subst hbind
  rfl

theorem readMoment_chars {m : Moment} {offsetChars : Offset → List Char}
    (hends : ∀ o ∈ m.offset, EndsTime (offsetChars o))
    (hread : ∀ o ∈ m.offset, readOffset? (offsetChars o) = some (some o)) :
    readMoment (String.ofList (m.chars offsetChars)) = .moment m :=
  readMoment_of_readDated? (by rw [String.toList_ofList, readDated?_chars hends hread])
    (Date.ofCivil?_civil _) m.ofDay?_date

/-- A moment that is written into a column is read back from it, unless its offset has parts of a
minute. -/
theorem readMoment_columnText_of_isReadable {m : Moment} (h : m.IsReadable) :
    readMoment m.columnText = .moment m :=
  readMoment_chars (fun o _ => endsTime_columnChars o) fun o ho => readOffset?_columnChars (h o ho)

/-- A moment in UTC is read back from its column. -/
theorem readMoment_columnText {m : Moment} (h : m.offset = some .utc) :
    readMoment m.columnText = .moment m :=
  readMoment_columnText_of_isReadable (m.isReadable_of_utc h)

end Calendar
end EditorialDesk
