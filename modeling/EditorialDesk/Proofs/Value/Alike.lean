import EditorialDesk.Value.Basic
import Mathlib.Data.List.Nodup

/-!
# Likeness of proper values

A value is proper if none of its objects has two fields of one name. Proper values are
like themselves, and rows that are alike have the same texts in their columns.
-/
namespace EditorialDesk
namespace Value

mutual

/-- No object in the value has two fields of one name. -/
def IsProper : Value → Prop
  | .list items => AreProper items
  | .object fields => (fields.map (·.1)).Nodup ∧ HasProperFields fields
  | _ => True

def AreProper : List Value → Prop
  | [] => True
  | x :: rest => x.IsProper ∧ AreProper rest

def HasProperFields : List (String × Value) → Prop
  | [] => True
  | (_, x) :: rest => x.IsProper ∧ HasProperFields rest

end

/-- Numbers have their own size, and whatever is no number is itself. -/
lemma equalInSize_self (v : Value) : equalInSize v v = true := by
  unfold equalInSize
  split
  · next h h' =>
    obtain ⟨rfl, rfl⟩ := Prod.mk.inj (Option.some.inj (h.symm.trans h'))
    exact beq_self_eq_true _
  · exact beq_self_eq_true v

lemma get?_of_mem {fields : Fields} (hnames : (fields.map (·.1)).Nodup) {name : String}
    {v : Value} (h : (name, v) ∈ fields) : fields.get? name = some v := by
  induction fields with
  | nil => cases h
  | cons f rest ih =>
    rw [List.map_cons, List.nodup_cons] at hnames
    rcases List.mem_cons.1 h with rfl | h
    · simp [Fields.get?]
    · have hne : f.1 ≠ name := fun he => hnames.1 (he ▸ List.mem_map_of_mem h)
      simpa [Fields.get?, hne] using ih hnames.2 h

/-- What the fields of one object have to do with those of another that they agree with. -/
lemma agreeFieldsBy_iff {leaf : Value → Value → Bool} {fs gs : Fields} :
    agreeFieldsBy leaf fs gs = true ↔
      ∀ f ∈ fs, ∃ y, gs.get? f.1 = some y ∧ agreeBy leaf f.2 y = true := by
  induction fs with
  | nil => simp [agreeFieldsBy]
  | cons f rest ih =>
    obtain ⟨name, x⟩ := f
    rw [agreeFieldsBy, Bool.and_eq_true, ih, List.forall_mem_cons]
    cases gs.get? name <;> simp

mutual

/-- A proper value is like itself. -/
theorem alike_self : (v : Value) → v.IsProper → v.alike v = true
  | .null, _ | .bool _, _ | .int _, _ | .float _, _ | .text _, _ => by
    simp [alike, agreeBy, equalInSize_self]
  | .list items, h => by
    simpa [alike, agreeBy] using agreeItems_self items h
  | .object fields, h => by
    have hall := alike_fields_self fields h.2
    simp only [alike, agreeBy, beq_self_eq_true, Bool.true_and, agreeFieldsBy_iff]
    exact fun f hf => ⟨f.2, get?_of_mem h.1 hf, hall f hf⟩

theorem agreeItems_self :
    (items : List Value) → AreProper items → agreeItemsBy equalInSize items items = true
  | [], _ => rfl
  | x :: rest, h => by
    have hx := alike_self x h.1
    unfold alike at hx
    rw [agreeItemsBy, hx, agreeItems_self rest h.2]
    rfl

theorem alike_fields_self : (fields : List (String × Value)) → HasProperFields fields →
    ∀ f ∈ fields, agreeBy equalInSize f.2 f.2 = true
  | [], _, f, hf => absurd hf List.not_mem_nil
  | (_, x) :: rest, h, f, hf => by
    rcases List.mem_cons.1 hf with rfl | hf
    · exact alike_self x h.1
    · exact alike_fields_self rest h.2 f hf

end

lemma alike_text_left {v : Value} {s : String} : (text s).alike v = true ↔ v = .text s := by
  cases v with
  | text t => rw [alike_text, beq_iff_eq, text.injEq, eq_comm]
  | _ => simp [alike, agreeBy, equalInSize, fraction?]

lemma alike_text_right {v : Value} {s : String} : v.alike (.text s) = true ↔ v = .text s := by
  cases v <;> simp [alike, agreeBy, equalInSize, fraction?]

lemma get_of_alikeRows {row other : Fields} (h : alikeRows row other = true) {column s : String}
    (hs : row.get column = .text s) : other.get column = .text s := by
  simp only [alikeRows, alike, agreeBy, Bool.and_eq_true, agreeFieldsBy_iff] at h
  unfold Fields.get at hs ⊢
  cases hcolumn : row.get? column with
  | none => simp [hcolumn] at hs
  | some v =>
    obtain ⟨f, hf, hv⟩ : ∃ f, row.find? (·.1 == column) = some f ∧ f.2 = v := by
      simpa [Fields.get?] using hcolumn
    have hname : f.1 = column := by simpa using List.find?_some hf
    obtain ⟨y, hy, hagree⟩ := h.2 f (List.mem_of_find?_eq_some hf)
    have htext : v = .text s := by simpa [hcolumn] using hs
    rw [hv, htext] at hagree
    rw [← hname, hy, alike_text_left.1 hagree]
    rfl

end Value
end EditorialDesk
