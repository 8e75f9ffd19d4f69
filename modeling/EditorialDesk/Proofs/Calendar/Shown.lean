import EditorialDesk.Proofs.Calendar.Column

/-!
# Moments in records

Every moment that is read, from a text or from a count, has no offset or one in whole
minutes. Such a moment is shown in full, though records show no more of an offset than its
minutes and UTC by a letter, and it is read back from what is shown.
-/
namespace EditorialDesk.Calendar

/-- An offset in whole minutes is shown as in a column, unless it is none at all. -/
lemma recordChars_of_inMinutes {o : Offset} (ho : o.InMinutes) :
    o.recordChars = if o.ticks = 0 then ['Z'] else o.columnChars := by
  obtain ⟨k, hk⟩ : ∃ k, o.ticks.natAbs = k * minuteTicks :=
    ⟨_, (Nat.div_mul_cancel (Nat.dvd_of_mod_eq_zero ho)).symm⟩
  have hseconds : (2 * o.ticks.natAbs + secondTicks) / (2 * secondTicks) = 60 * k := by
    unfold secondTicks minuteTicks at *
    omega
  have hticks : 60 * k * secondTicks = o.ticks.natAbs := by
    unfold secondTicks minuteTicks at *
    omega
  have hzero : (60 * k == 0) = decide (o.ticks = 0) := by
    rw [Bool.eq_iff_iff, beq_iff_eq, decide_eq_true_iff]
    unfold minuteTicks at hk
    omega
  have hminute : (o.ticks.natAbs % minuteTicks == 0) = true := beq_iff_eq.2 ho
  unfold Offset.recordChars Offset.columnChars
  simp only [hseconds, hticks, hzero, hminute, decide_eq_true_eq, if_true, List.append_nil]

lemma readOffset?_recordChars {o : Offset} (ho : o.InMinutes) :
    readOffset? o.recordChars = some (some o) := by
  rw [recordChars_of_inMinutes ho]
  split
  · next hzero =>
    have hutc : o = Offset.utc := Offset.mk.injEq .. ▸ hzero
    rw [hutc]
    rfl
  · exact readOffset?_columnChars ho

lemma endsTime_recordChars {o : Offset} (ho : o.InMinutes) : EndsTime o.recordChars := by
  rw [recordChars_of_inMinutes ho]
  split
  · intro c hc
    exact Or.inr (Or.inr (Option.some.inj hc).symm)
  · exact endsTime_columnChars o

/-- A moment without an offset, or with one in whole minutes, is read back from a record. -/
theorem readMoment_recordText {m : Moment} (h : m.IsReadable) :
    readMoment m.recordText = .moment m :=
  readMoment_chars (fun o ho => endsTime_recordChars (h o ho)) fun o ho =>
    readOffset?_recordChars (h o ho)

lemma ticks_of_ofTicks? {ticks : Int} {o : Offset} (h : Offset.ofTicks? ticks = some o) :
    o.ticks = ticks := by
  unfold Offset.ofTicks? at h
  split at h
  · rw [← Option.some.inj h]
  · cases h

lemma inMinutes_of_readOffset? {cs : List Char} {o : Offset}
    (h : readOffset? cs = some (some o)) : o.InMinutes := by
  have hminutes : ∀ (minutes : Nat) (ticks : Int), ticks.natAbs = minutes * minuteTicks →
      Offset.ofTicks? ticks = some o → o.InMinutes := by
    intro minutes ticks hticks hself
    rw [Offset.InMinutes, ticks_of_ofTicks? hself, hticks]
    exact Nat.mul_mod_left _ _
  cases cs with
  | nil => cases h
  | cons c rest =>
    rw [readOffset?] at h
    split at h
    · split at h
      · rw [← Option.some.inj (Option.some.inj h)]
        rfl
      · cases h
    · split at h
      · simp only [Option.bind_eq_bind, Option.bind_eq_some_iff, pure, Option.some.injEq] at h
        obtain ⟨minutes, -, o', hself, rfl⟩ := h
        exact hminutes minutes _ (Int.natAbs_natCast _) hself
      · split at h
        · simp only [Option.bind_eq_bind, Option.bind_eq_some_iff, pure, Option.some.injEq] at h
          obtain ⟨minutes, -, o', hself, rfl⟩ := h
          exact hminutes minutes _ (by rw [Int.natAbs_neg, Int.natAbs_natCast]) hself
        · cases h

lemma isReadable_of_readDated? {cs : List Char} {c : Civil} {ticks : Nat} {offset : Option Offset}
    (h : readDated? cs = some (c, ticks, offset)) : ∀ o ∈ offset, o.InMinutes := by
  unfold readDated? at h
  simp only [Option.bind_eq_bind, Option.bind_eq_some_iff] at h
  obtain ⟨⟨d, rest⟩, -, h⟩ := h
  cases rest with
  | nil =>
    simp only [pure, Option.some.injEq, Prod.mk.injEq] at h
    rw [← h.2.2]
    exact fun o ho => absurd ho (Option.not_mem_none o)
  | cons mark rest =>
    dsimp only at h
    split at h
    · simp only [Option.bind_eq_some_iff, pure, Option.some.injEq, Prod.mk.injEq] at h
      obtain ⟨⟨time, rest⟩, -, found, hoffset, -, -, rfl⟩ := h
      intro o ho
      rw [Option.mem_def] at ho
      rw [ho] at hoffset
      exact inMinutes_of_readOffset? hoffset
    · cases h

lemma offset_of_ofDay? {d : Date} {ticks : Nat} {offset : Option Offset} {m : Moment}
    (h : Moment.ofDay? d ticks offset = some m) : m.offset = offset := by
  obtain ⟨clock, -, rfl⟩ := Option.map_eq_some_iff.1 h
  rfl

lemma isReadable_of_count {count : UnixCount} {m : Moment} (h : count.moment? = some m) :
    m.IsReadable := by
  obtain ⟨i, -, hi⟩ := Option.bind_eq_some_iff.1 h
  obtain ⟨clock, -, rfl⟩ := Option.map_eq_some_iff.1 hi
  exact Moment.isReadable_of_utc rfl

/-- A moment that is read from a text can be shown and read again. -/
theorem isReadable_of_readMoment {s : String} {m : Moment} (h : readMoment s = .moment m) :
    m.IsReadable := by
  unfold readMoment at h
  cases hdated : readDated? s.toList with
  | some found =>
    obtain ⟨c, ticks, offset⟩ := found
    rw [hdated] at h
    dsimp only at h
    cases hday : (Date.ofCivil? c).bind (Moment.ofDay? · ticks offset) with
    | none =>
      rw [hday] at h
      cases h
    | some m' =>
      rw [hday] at h
      obtain rfl := MomentText.moment.inj h
      obtain ⟨d, -, hm⟩ := Option.bind_eq_some_iff.1 hday
      rw [Moment.IsReadable, offset_of_ofDay? hm]
      exact isReadable_of_readDated? hdated
  | none =>
    rw [hdated] at h
    dsimp only at h
    cases hcount : UnixCount.ofChars? s.toList with
    | none =>
      rw [hcount] at h
      cases h
    | some count =>
      rw [hcount] at h
      dsimp only at h
      cases hm : count.moment? with
      | some m' =>
        rw [hm] at h
        obtain rfl := MomentText.moment.inj h
        exact isReadable_of_count hm
      | none =>
        rw [hm] at h
        dsimp only at h
        split at h <;> cases h

end EditorialDesk.Calendar
