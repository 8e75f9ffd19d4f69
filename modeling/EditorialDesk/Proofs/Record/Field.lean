import EditorialDesk.Proofs.Calendar.Shown
import EditorialDesk.Record.Field

/-!
# Fields that are read back

The checks of fields read many spellings, and each of them reads one spelling in which
what was read is written. A list is read back if its items are, and a field if it is written
under its name and its default passes its own check.
-/
namespace EditorialDesk.Record

variable {α β : Type} {a : α} {name : String} {fields fields' : Fields}

theorem Checked.map_eq_accepted {f : α → β} {c : Checked α} {b : β} :
    c.map f = .accepted b ↔ ∃ a, c = .accepted a ∧ f a = b := by
  cases c <;> simp [Checked.map]

theorem Checked.seq_eq_accepted {f : Checked (α → β)} {c : Checked α} {b : β} :
    f <*> c = .accepted b ↔ ∃ g a, f = .accepted g ∧ c = .accepted a ∧ g a = b := by
  change Checked.apply f c = _ ↔ _
  cases f <;> cases c <;> simp [Checked.apply]

lemma Checked.eq_accepted_iff {c : Checked α} :
    c = .accepted a ↔ ∃ x, c = .accepted x ∧ x = a := by
  simp

/-- A record is made of what its fields are read as. -/
lemma Checked.exists_fmap {f : α → β} {c : Checked α} {p : β → Prop} :
    (∃ b, f <$> c = .accepted b ∧ p b) ↔ ∃ a, c = .accepted a ∧ p (f a) := by
  change (∃ b, c.map f = .accepted b ∧ p b) ↔ _
  cases c <;> simp [Checked.map]

lemma Checked.exists_seq {f : Checked (α → β)} {c : Checked α} {p : β → Prop} :
    (∃ b, f <*> c = .accepted b ∧ p b) ↔
      ∃ g, f = .accepted g ∧ ∃ a, c = .accepted a ∧ p (g a) := by
  change (∃ b, Checked.apply f c = .accepted b ∧ p b) ↔ _
  cases f <;> cases c <;> simp [Checked.apply]

@[simp] theorem Checked.under_eq_accepted {step : Step} {c : Checked α} :
    c.under step = .accepted a ↔ c = .accepted a := by
  cases c <;> simp [Checked.under]

/-- What was read of the items of a list was read of items. -/
lemma Checked.exists_of_items {check : α → Checked β} {start : Nat} {xs : List α} {bs : List β}
    (h : items check start xs = .accepted bs) : ∀ b ∈ bs, ∃ x, check x = .accepted b := by
  induction xs generalizing start bs with
  | nil =>
    cases h
    exact fun b hb => absurd hb List.not_mem_nil
  | cons x rest ih =>
    obtain ⟨g, others, hfirst, hrest, rfl⟩ := seq_eq_accepted.1 h
    obtain ⟨b, hb, rfl⟩ := map_eq_accepted.1 hfirst
    exact List.forall_mem_cons.2 ⟨⟨x, under_eq_accepted.1 hb⟩, ih hrest⟩

lemma Checked.items_map {check : α → Checked β} {write : β → α} {bs : List β}
    (h : ∀ b ∈ bs, check (write b) = .accepted b) (start : Nat) :
    items check start (bs.map write) = .accepted bs := by
  induction bs generalizing start with
  | nil => rfl
  | cons b rest ih =>
    rw [List.forall_mem_cons] at h
    rw [List.map_cons, items, h.1, ih h.2]
    rfl

lemma record_eq_accepted {check : Fields → Checked α} {v : Value} :
    record check v = .accepted a ↔ ∃ fields, v = .object fields ∧ check fields = .accepted a := by
  cases v <;> simp [record, Checked.complain]

lemma required_eq_accepted {check : Check α} :
    required name check fields = .accepted a ↔
      ∃ v, fields.get? name = some v ∧ check v = .accepted a := by
  unfold required
  cases fields.get? name <;> simp [Checked.complain]

lemma required_text_eq_accepted {s : String} (h : required name text fields = .accepted s) :
    fields.get? name = some (.text s) := by
  obtain ⟨v, hv, hs⟩ := required_eq_accepted.1 h
  cases v with
  | text t =>
    cases hs
    exact hv
  | _ => cases hs

lemma withDefault_of_get? {check : Check α} {v : Value} (default : α)
    (hget : fields.get? name = some v) (h : check v = .accepted a) :
    withDefault name default check fields = .accepted a := by
  unfold withDefault
  rw [hget]
  exact Checked.under_eq_accepted.2 h

/-- A field is left out, or its value is read. -/
lemma withDefault_cases {check : Check α} {default : α}
    (h : withDefault name default check fields = .accepted a) :
    a = default ∨ ∃ v, check v = .accepted a := by
  unfold withDefault at h
  cases hget : fields.get? name with
  | none =>
    rw [hget] at h
    cases h
    exact .inl rfl
  | some v =>
    rw [hget] at h
    exact .inr ⟨v, Checked.under_eq_accepted.1 h⟩

/-- What a check reads of any value it reads of the value that is written for it. -/
def Rereads (check : Check α) (write : α → Value) : Prop :=
  ∀ v a, check v = .accepted a → check (write a) = .accepted a

lemma rereads_text : Rereads text .text := fun _ _ _ => rfl

lemma rereads_truth : Rereads truth .bool := fun _ _ _ => rfl

lemma rereads_whole : Rereads whole .int := fun _ _ _ => rfl

/-- Members of a list that is numbered by words are read by their numbers. -/
lemma rereads_numbered {member? : Int → Option α} {code : α → Int}
    (hword : ∀ a, isWord (code a) = true) (hmember : ∀ a, member? (code a) = some a) :
    Rereads (numbered member?) fun a => .int (code a) := by
  intro v a _
  simp only [numbered, whole, hword a, hmember a, if_true]

lemma rereads_worded {member? : String → Option α} {word : α → String}
    (hmember : ∀ a, member? (word a) = some a) :
    Rereads (worded member?) fun a => .text (word a) := by
  intro v a _
  simp only [worded, hmember a]

/-- A moment that is read is without an offset, or has one in whole minutes. -/
lemma isReadable_of_moment {v : Value} {m : Calendar.Moment} (h : moment v = .accepted m) :
    m.IsReadable := by
  have hcount : ∀ count : Calendar.UnixCount, moment.ofCount count = .accepted m →
      m.IsReadable := by
    intro count hm
    unfold moment.ofCount at hm
    split at hm
    · next m' hread =>
      cases hm
      exact Calendar.isReadable_of_count hread
    · cases hm
  cases v with
  | int n =>
    rw [moment] at h
    split at h
    · cases h
    · exact hcount _ h
  | float x => exact hcount _ h
  | text s =>
    rw [moment] at h
    split at h
    · next m' hread =>
      cases h
      exact Calendar.isReadable_of_readMoment hread
    · cases h
    · cases h
  | _ => cases h

lemma rereads_moment : Rereads moment .ofMoment := by
  intro v m h
  have hread := Calendar.readMoment_recordText (isReadable_of_moment h)
  simp only [Value.ofMoment, moment, hread]

/-- What may be null is written as null where it is none. -/
lemma Rereads.orNull {check : Check α} {write : α → Value} (h : Rereads check write)
    (hwrite : ∀ a, write a ≠ .null) {write? : Option α → Value}
    (hsome : ∀ a, write? (some a) = write a) (hnone : write? none = .null) :
    Rereads (orNull check) write? := by
  have hpresent : ∀ v, v ≠ .null → Record.orNull check v = (check v).map some := by
    intro v hv
    cases v with
    | null => exact absurd rfl hv
    | _ => rfl
  intro v o ho
  cases o with
  | none =>
    rw [hnone]
    rfl
  | some a =>
    by_cases hv : v = .null
    · rw [hv] at ho
      cases ho
    · rw [hpresent v hv] at ho
      obtain ⟨a', ha, hsame⟩ := Checked.map_eq_accepted.1 ho
      obtain rfl := Option.some.inj hsame
      rw [hsome, hpresent _ (hwrite a'), h v a' ha]
      rfl

lemma rereads_text? : Rereads (orNull text) .ofText? :=
  rereads_text.orNull nofun (fun _ => rfl) rfl

lemma rereads_moment? : Rereads (orNull moment) .ofMoment? :=
  rereads_moment.orNull (by simp [Value.ofMoment]) (fun _ => rfl) rfl

lemma Rereads.list {check : Check α} {write : α → Value} (h : Rereads check write) :
    Rereads (list check) fun as => .list (as.map write) := by
  intro v as has
  cases v with
  | list vs =>
    refine Checked.items_map (fun a ha => ?_) 0
    obtain ⟨v, hv⟩ := Checked.exists_of_items has a ha
    exact h v a hv
  | _ => cases has

lemma Rereads.required {check : Check α} {write : α → Value} (h : Rereads check write)
    (hread : required name check fields = .accepted a)
    (hget : fields'.get? name = some (write a)) : required name check fields' = .accepted a := by
  obtain ⟨v, -, hv⟩ := required_eq_accepted.1 hread
  exact required_eq_accepted.2 ⟨_, hget, h v a hv⟩

lemma Rereads.withDefault {check : Check α} {write : α → Value} (h : Rereads check write)
    {default : α} (hdefault : check (write default) = .accepted default)
    (hread : withDefault name default check fields = .accepted a)
    (hget : fields'.get? name = some (write a)) :
    withDefault name default check fields' = .accepted a := by
  refine withDefault_of_get? default hget ?_
  rcases withDefault_cases hread with rfl | ⟨v, hv⟩
  · exact hdefault
  · exact h v a hv

/-- A field that may be missing or null is read back from its name if none is written as null. -/
lemma Rereads.optional {check : Check α} {write : Option α → Value}
    (h : Rereads (Record.orNull check) write) (hnone : write none = .null) {a : Option α}
    (hread : Record.optional name check fields = .accepted a)
    (hget : fields'.get? name = some (write a)) :
    Record.optional name check fields' = .accepted a :=
  h.withDefault (by rw [hnone]; rfl) hread hget

end EditorialDesk.Record
