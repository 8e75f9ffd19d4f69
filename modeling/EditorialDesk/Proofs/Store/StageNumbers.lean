import EditorialDesk.Proofs.Store.Directory
import EditorialDesk.Proofs.Text.Grammar

/-!
# Stages as columns write them

A column names a stage by its number. A text does so in any spelling of a number from one
to five, whatever the script, the zeros in front and the white space around it; of all other
values only these whole numbers themselves do. Nothing else names a stage, and nothing
makes the look-up of stages fail.
-/
namespace EditorialDesk

open Database Text

/-! ## Labels that write no number -/

namespace Binary64

lemma point_mem_pointAt (digits : List Char) (lead : Int) : '.' ∈ pointAt digits lead := by
  unfold pointAt
  split <;> simp

lemma exists_mark_magnitudeText (num den : Nat) :
    ∃ c ∈ magnitudeText num den, c = '.' ∨ c = 'e' := by
  unfold magnitudeText
  split
  · exact ⟨'.', by simp, .inl rfl⟩
  · dsimp only
    split
    · exact ⟨'.', point_mem_pointAt _ _, .inl rfl⟩
    · exact ⟨'e', by simp [exponentText], .inr rfl⟩

/-- The text of a double has a point or a letter in it. -/
lemma exists_mark_text (x : Binary64) : ∃ c ∈ x.text.toList, c = '.' ∨ c = 'e' ∨ c = 'n' := by
  unfold text
  rw [String.toList_ofList]
  cases x with
  | finite negative m e =>
    obtain ⟨c, hc, hmark⟩ :=
      exists_mark_magnitudeText (m * pow2 e.toNat) (pow2 (-e).toNat)
    refine ⟨c, List.mem_append_right _ hc, ?_⟩
    rcases hmark with rfl | rfl <;> simp
  | infinite negative => exact ⟨'n', by simp, .inr (.inr rfl)⟩
  | nan => exact ⟨'n', by simp, .inr (.inr rfl)⟩

end Binary64

/-- Only a text or a whole number can write a number. -/
lemma Value.whole?_label_eq_none {v : Value} (htext : ∀ s, v ≠ .text s) (hint : ∀ n, v ≠ .int n) :
    whole? (strip v.label.toList) = none := by
  cases v with
  | null => decide
  | bool b => cases b <;> decide
  | int n => exact absurd rfl (hint n)
  | text s => exact absurd rfl (htext s)
  | float x =>
    obtain ⟨c, hc, hmark⟩ := x.exists_mark_text
    refine whole?_strip_eq_none hc ?_
    rcases hmark with rfl | rfl | rfl <;> decide
  | list items =>
    refine whole?_strip_eq_none (c := '[') ?_ (by decide)
    simp [label, printed]
  | object fields =>
    refine whole?_strip_eq_none (c := '\x7b') ?_ (by decide)
    simp [label, printed]

/-! ## Stages by their numbers -/

namespace Stage

variable {n k : Int} {s : String} {v : Value}

lemma exists_code_iff : (∃ stage : Stage, stage.code = n) ↔ 1 ≤ n ∧ n ≤ 5 := by
  constructor
  · rintro ⟨stage, rfl⟩
    cases stage <;> decide
  · intro h
    obtain rfl | rfl | rfl | rfl | rfl : n = 1 ∨ n = 2 ∨ n = 3 ∨ n = 4 ∨ n = 5 := by omega
    · exact ⟨submission, rfl⟩
    · exact ⟨internalReview, rfl⟩
    · exact ⟨externalReview, rfl⟩
    · exact ⟨editing, rfl⟩
    · exact ⟨production, rfl⟩

lemma ofValue?_of_ne_null (hv : v ≠ .null) :
    ofValue? v = (whole? (strip v.label.toList)).bind ofCode? := by
  cases v with
  | null => exact absurd rfl hv
  | _ => rfl

/-- A value names a stage exactly by a number of one that its label writes. -/
lemma map_code_ofValue? (hv : v ≠ .null) : (ofValue? v).map code = some k ↔
    1 ≤ k ∧ k ≤ 5 ∧ whole? (strip v.label.toList) = some k := by
  rw [ofValue?_of_ne_null hv, ← and_assoc, ← exists_code_iff]
  simp only [Option.map_eq_some_iff, Option.bind_eq_some_iff, ofCode?_eq_some_iff]
  constructor
  · rintro ⟨stage, ⟨n, hn, rfl⟩, rfl⟩
    exact ⟨⟨stage, rfl⟩, hn⟩
  · rintro ⟨⟨stage, rfl⟩, hn⟩
    exact ⟨stage, ⟨_, hn, rfl⟩, rfl⟩

lemma map_code_ofValue?_text (hs : s.length ≤ maxDigits) :
    (ofValue? (.text s)).map code = some k ↔ 1 ≤ k ∧ k ≤ 5 ∧ Spells s k := by
  rw [map_code_ofValue? (by simp), Value.label_text, whole?_strip_toList hs]

lemma map_code_ofValue?_int :
    (ofValue? (.int n)).map code = some k ↔ 1 ≤ k ∧ k ≤ 5 ∧ n = k := by
  rw [← and_assoc, ← exists_code_iff]
  simp only [Option.map_eq_some_iff, ofValue?_int_eq_some_iff]
  constructor
  · rintro ⟨stage, rfl, rfl⟩
    exact ⟨⟨stage, rfl⟩, rfl⟩
  · rintro ⟨⟨stage, rfl⟩, rfl⟩
    exact ⟨stage, rfl, rfl⟩

lemma map_code_ofValue?_of_ne_text (hv : ∀ s, v ≠ .text s) :
    (ofValue? v).map code = some k ↔ 1 ≤ k ∧ k ≤ 5 ∧ v = .int k := by
  by_cases hint : ∃ n, v = .int n
  · obtain ⟨n, rfl⟩ := hint
    rw [map_code_ofValue?_int, Value.int.injEq]
  · have hne : ∀ n, v ≠ .int n := fun n hn => hint ⟨n, hn⟩
    have hnone : ofValue? v = none := by
      by_cases hnull : v = .null
      · rw [hnull]
        rfl
      · rw [ofValue?_of_ne_null hnull, Value.whole?_label_eq_none hv hne, Option.bind_none]
    simp [hnone, hne k]

/-- Without a number there is no stage. -/
lemma eq_none_iff_of_map_code {found : Option Stage} {p : Int → Prop}
    (h : ∀ k, found.map code = some k ↔ 1 ≤ k ∧ k ≤ 5 ∧ p k) :
    found = none ↔ ∀ k, 1 ≤ k → k ≤ 5 → ¬p k := by
  rw [← Option.map_eq_none_iff (f := code), Option.eq_none_iff_forall_ne_some]
  simp only [ne_eq, h, not_and]

end Stage

/-! ## The stages of rows -/

namespace Store

/-- Looking up grants of stages comes to what the rows say, whatever stands in the columns. -/
lemma grants_run {db : Database} (h : db.Legible Table.userGroupStages) (groupIds : List String) :
    ∃ db', (grants groupIds).run db = (.ok (db.grants groupIds), db') := by
  have hfinds : (grants groupIds).Finds db [Table.userGroupStages] (db.grants groupIds) :=
    finds_grants (by simp) groupIds
  exact hfinds.exists_run (by simpa using h)

/-- A text of bounded length names the stage of the number that it spells, if there is one; of all
other values only the numbers of stages name one. No value makes the look-up of stages fail,
and texts without a bound do not either. -/
theorem stages_exact :
    (∀ s : String, s.length ≤ maxDigits →
      (∀ k, (Stage.ofValue? (.text s)).map Stage.code = some k ↔ 1 ≤ k ∧ k ≤ 5 ∧ Spells s k) ∧
        (Stage.ofValue? (.text s) = none ↔ ∀ k, 1 ≤ k → k ≤ 5 → ¬Spells s k)) ∧
    (∀ v : Value, (∀ s, v ≠ .text s) →
      (∀ k, (Stage.ofValue? v).map Stage.code = some k ↔ 1 ≤ k ∧ k ≤ 5 ∧ v = .int k) ∧
        (Stage.ofValue? v = none ↔ ∀ k, 1 ≤ k → k ≤ 5 → v ≠ .int k)) ∧
    ∀ (db : Database) (groupIds : List String), db.Legible Table.userGroupStages →
      ∃ db', (grants groupIds).run db = (.ok (db.grants groupIds), db') := by
  refine ⟨?_, ?_, ?_⟩
  · intro s hs
    have hnumber := fun k => Stage.map_code_ofValue?_text (k := k) hs
    exact ⟨hnumber, Stage.eq_none_iff_of_map_code hnumber⟩
  · intro v hv
    have hnumber := fun k => Stage.map_code_ofValue?_of_ne_text (k := k) hv
    exact ⟨hnumber, Stage.eq_none_iff_of_map_code hnumber⟩
  · intro db groupIds h
    exact grants_run h groupIds

/-- A sign, digits of two scripts with an underscore between them, and separators around it all. -/
def mixedThree : String := "\u2003+٠_３\x1f"

lemma mixedThree_spells : Spells mixedThree 3 := by
  have hzero : IsDigitOf '٠' 0 := ⟨0x660, by decide⟩
  have hthree : IsDigitOf '３' 3 := ⟨0xFF10, by decide⟩
  have hwrites : WritesSigned "+٠_３".toList false [0, 3] := .plus (.parted hzero (.last hthree))
  have hblank : ∀ c, isBlank c = true → AllBlank (String.singleton c) := by
    intro c hc
    simpa [AllBlank] using hc
  refine ⟨"+٠_３", false, [0, 3], ⟨hwrites.isCore, _, _, hblank '\u2003' (by decide),
    hblank '\x1f' (by decide), by decide⟩, hwrites, by decide⟩

/-- A grant that has the stage in this spelling. -/
def mixedGrant : Database :=
  empty.setRows Table.userGroupStages
    [[("user_group_id", .text "editors"), ("stage_id", .text mixedThree)]]

lemma mixedGrant_legible : mixedGrant.Legible Table.userGroupStages := ⟨rfl, nofun⟩

theorem mixedThree_stage :
    (Stage.ofValue? (.text mixedThree)).map Stage.code = some 3 ∧
      Stage.ofValue? (.bool true) = none ∧
      ∃ db', (grants ["editors"]).run mixedGrant = (.ok (mixedGrant.grants ["editors"]), db') := by
  have hshort : mixedThree.length ≤ maxDigits := by decide
  obtain ⟨htext, hother, hrun⟩ := stages_exact
  have hthree := (htext mixedThree hshort).1 3
  have hbool := (hother (.bool true) nofun).2
  exact ⟨hthree.2 ⟨by decide, by decide, mixedThree_spells⟩, hbool.2 nofun,
    hrun mixedGrant ["editors"] mixedGrant_legible⟩

end Store
end EditorialDesk
