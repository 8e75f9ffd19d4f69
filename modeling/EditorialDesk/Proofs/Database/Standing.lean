import EditorialDesk.Proofs.Database.History

/-!
# The row of a submission

A submission is stored in one row, which says how far it has come. No query of the intake
takes the row away or changes its identity, and the progress in it either stays as it is
or becomes zero, and then there is a date of submission.
-/
namespace EditorialDesk

/-- Where every field of a patch has its own name, a merged field is that of the patch or else the
old one. -/
lemma Fields.get?_merge (fields : Fields) {patch : Fields} (h : (patch.map (·.1)).Nodup)
    (name : String) : (fields.merge patch).get? name = (patch.get? name).or (fields.get? name) := by
  induction patch generalizing fields with
  | nil => rfl
  | cons f rest ih =>
    rw [List.map_cons, List.nodup_cons] at h
    change Fields.get? (Fields.merge (fields.set f.1 f.2) rest) name = _
    rw [ih _ h.2]
    by_cases hname : f.1 = name
    · subst hname
      have hrest : Fields.get? rest f.1 = none := by
        rw [Fields.get?, Option.map_eq_none_iff, List.find?_eq_none]
        intro g hg heq
        exact h.1 (List.mem_map.2 ⟨g, hg, by simpa using heq⟩)
      have hself : Fields.get? (f :: rest) f.1 = some f.2 := by simp [Fields.get?]
      rw [hrest, hself, Fields.get?_set_self]
      rfl
    · have hother : Fields.get? (f :: rest) name = Fields.get? rest name := by
        simp [Fields.get?, hname]
      rw [hother, Fields.get?_set_of_ne fields (Ne.symm hname)]

namespace Database

/-- The rows hold a submission once, with a progress, and with a date of submission if that is
zero. -/
def StandsAt (rows : List Row) (id : String) (progress : Int) : Prop :=
  ∃ row, rows.filter (meets [.equals "id" id]) = [row] ∧
    row.get "submission_progress" = .int progress ∧
    (progress = 0 → row.get "date_submitted" ≠ .null)

variable {rows : List Row} {id : String} {progress : Int} {patch : Row}

/-- A change leaves every row to the submission that it is of. -/
lemma filter_effect_update (hpatch : patch.IsAdvance) (orphans : List Value) (rows : List Row)
    (filters : List Filter) (id : String) :
    (effect orphans rows (.update Table.submissions patch filters)).filter
        (meets [.equals "id" id]) =
      (rows.filter (meets [.equals "id" id])).map fun row =>
        if meets filters row then row.merge patch else row := by
  have hid : ∀ row : Row, meets [.equals "id" id]
      (if meets filters row then row.merge patch else row) = meets [.equals "id" id] row := by
    intro row
    split
    · have hget : (row.merge patch).get? "id" = row.get? "id" := by
        rw [Fields.get?_merge row hpatch.1, hpatch.2.1]
        rfl
      simp only [meets, List.all_cons, List.all_nil, Filter.admits, Fields.label, Fields.get, hget]
    · rfl
  rw [effect, List.filter_map]
  congr 1
  exact List.filter_congr fun row _ => hid row

/-- A changed row stores the old progress, or zero and a date. -/
lemma merge_advance (hpatch : patch.IsAdvance) {row : Row}
    (hrow : row.get "submission_progress" = .int progress)
    (hdate : progress = 0 → row.get "date_submitted" ≠ .null) :
    ∃ p, (p = progress ∨ p = 0) ∧
      (patch.get? "submission_progress" = some (.int 0) → p = 0) ∧
      (row.merge patch).get "submission_progress" = .int p ∧
      (p = 0 → (row.merge patch).get "date_submitted" ≠ .null) := by
  unfold Fields.get at hrow hdate ⊢
  rw [Fields.get?_merge row hpatch.1, Fields.get?_merge row hpatch.1]
  rcases hpatch.2.2 with ⟨hsame, hsame'⟩ | ⟨hzero, date, hdate'⟩
  · rw [hsame, hsame', Option.none_or, Option.none_or]
    exact ⟨progress, .inl rfl, fun h => by simp at h, hrow, hdate⟩
  · rw [hzero, hdate', Option.some_or, Option.some_or]
    exact ⟨0, .inr rfl, fun _ => rfl, rfl, fun _ => by simp⟩

/-- A change by an advance leaves the submission where it is or finalizes it. -/
lemma StandsAt.update (h : StandsAt rows id progress) (hpatch : patch.IsAdvance)
    (orphans : List Value) (filters : List Filter) :
    ∃ p, (p = progress ∨ p = 0) ∧
      StandsAt (effect orphans rows (.update Table.submissions patch filters)) id p := by
  obtain ⟨row, hrow, hprogress, hdate⟩ := h
  have hfilter := filter_effect_update hpatch orphans rows filters id
  rw [hrow, List.map_singleton] at hfilter
  cases hmeets : meets filters row with
  | true =>
    obtain ⟨p, hp, -, hrest⟩ := merge_advance hpatch hprogress hdate
    rw [hmeets, if_pos rfl] at hfilter
    exact ⟨p, hp, _, hfilter, hrest⟩
  | false =>
    rw [hmeets, if_neg Bool.false_ne_true] at hfilter
    exact ⟨progress, .inl rfl, _, hfilter, hprogress, hdate⟩

lemma StandsAt.finalize (h : StandsAt rows id progress) (hpatch : patch.IsAdvance)
    (hzero : patch.get? "submission_progress" = some (.int 0)) (orphans : List Value) :
    StandsAt (effect orphans rows (.update Table.submissions patch [.equals "id" id])) id 0 := by
  obtain ⟨row, hrow, hprogress, hdate⟩ := h
  have hfilter := filter_effect_update hpatch orphans rows [.equals "id" id] id
  have hmeets : meets [.equals "id" id] row = true :=
    (List.mem_filter.1 (hrow ▸ List.mem_singleton.2 rfl)).2
  obtain ⟨p, -, hp, hrest⟩ := merge_advance hpatch hprogress hdate
  rw [hrow, List.map_singleton, hmeets, if_pos rfl] at hfilter
  rw [hp hzero] at hrest
  exact ⟨_, hfilter, hrest⟩

variable {db db' : Database} {ds : List Deed}

/-- After any queries of the intake the submission stands where it stood, or is finalized. -/
theorem StandsAt.leads (h : StandsAt (db.rows Table.submissions) id progress)
    (hleads : Leads db ds db') (hdb : db.Plain) :
    ∃ p, (p = progress ∨ p = 0) ∧ StandsAt (db'.rows Table.submissions) id p := by
  induction hleads generalizing progress with
  | refl db => exact ⟨progress, .inl rfl, h⟩
  | failed _ ih => exact ih h (hdb.note _)
  | @step db db' c ds hc _ ih =>
    have hrows := hdb.rows_perform hc.isNamed Table.submissions
    obtain ⟨p, hp, hstep⟩ : ∃ p, (p = progress ∨ p = 0) ∧
        StandsAt ((db.perform c).2.rows Table.submissions) id p := by
      rw [hrows]
      split
      · next htable =>
        cases c with
        | select t filters order => exact ⟨progress, .inl rfl, h⟩
        | insert t row =>
          obtain rfl : Table.submissions = t := htable
          rcases hc with ⟨ht, -⟩ | ⟨ht, -⟩ | ht
          · exact absurd ht (by decide)
          · exact absurd ht (by decide)
          · exact absurd ht (by decide)
        | update t patch filters =>
          obtain ⟨rfl, hpatch⟩ := hc
          exact h.update hpatch _ _
        | delete t filters => exact absurd (htable.trans hc) (by decide)
      · exact ⟨progress, .inl rfl, h⟩
    obtain ⟨q, hq, hend⟩ := ih hstep ((hdb.later_perform hc).plain hdb)
    refine ⟨q, ?_, hend⟩
    rcases hq with rfl | rfl
    · exact hp
    · exact .inr rfl

end Database
end EditorialDesk
