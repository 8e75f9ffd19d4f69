import EditorialDesk.Database.Error
import EditorialDesk.Proofs.Store.Relations
import EditorialDesk.Proofs.Text.Words
import EditorialDesk.Value.Printer

/-!
# What an error says

Errors are told apart by what is found in a text made of code, message and the whole error. As
code and message are fields of the error, the printed form of the whole has everything in it
that is looked for.
-/
namespace EditorialDesk.Value

/-!
## What the printed form of a value holds

The printed form of an object has those of its fields in it, so a phrase that stands in the
label of a field stands in the whole. A word stands in it exactly if it stands in the name or
in the value of one of its fields.
-/

open Text

variable {part name : String} {v : Value} {fields : Fields}

lemma printedFields_cons (f g : String × Value) (rest : Fields) :
    printedFields (f :: g :: rest) =
      quoted f.1 ++ ": " ++ f.2.printed ++ ", " ++ printedFields (g :: rest) := by
  rw [printedFields]
  exact List.cons_ne_nil g rest

lemma infix_printedFields (hmem : (name, v) ∈ fields) :
    v.printed.toList <:+: (printedFields fields).toList := by
  induction fields with
  | nil => cases hmem
  | cons f rest ih =>
    cases rest with
    | nil =>
      obtain rfl := List.mem_singleton.1 hmem
      rw [printedFields, String.toList_append]
      exact (List.suffix_append _ _).isInfix
    | cons g rest =>
      simp only [printedFields_cons, String.toList_append]
      rcases List.mem_cons.1 hmem with rfl | hmem
      · rw [List.append_assoc]
        exact ⟨_, _, rfl⟩
      · exact (ih hmem).trans (List.suffix_append _ _).isInfix

lemma infix_printed_of_mem (hmem : (name, v) ∈ fields) :
    v.printed.toList <:+: (object fields).printed.toList := by
  refine (infix_printedFields hmem).trans ?_
  rw [printed, String.toList_append, String.toList_append]
  exact ⟨_, _, rfl⟩

lemma mentions_printed_of_mem (hpart : IsPhrase part) (hmem : (name, v) ∈ fields)
    (hv : mentions v.printed part = true) : mentions (object fields).printed part = true :=
  mentions_of_infix hpart (infix_printed_of_mem hmem) hv

/-- The phrases in the label of a value are in its printed form. -/
lemma mentions_printed_of_label (hpart : IsPhrase part) (h : mentions v.label part = true) :
    mentions v.printed part = true := by
  cases v with
  | text s => exact mentions_quoted hpart h
  | _ => exact h

lemma mem_of_get (h : fields.get name = v) (hv : v ≠ .null) : (name, v) ∈ fields := by
  obtain ⟨f, hf, rfl⟩ := Option.map_eq_some_iff.1 (Database.get?_of_get_ne_null h hv)
  have hname : f.1 = name := by simpa using List.find?_some hf
  exact hname ▸ List.mem_of_find?_eq_some hf

lemma mem_of_labelOrEmpty (h : (fields.get name).labelOrEmpty ≠ "") :
    (name, fields.get name) ∈ fields ∧
      (fields.get name).labelOrEmpty = (fields.get name).label := by
  unfold labelOrEmpty at h ⊢
  split at h
  · next hpresent =>
    refine ⟨mem_of_get rfl fun hnull => ?_, if_pos hpresent⟩
    rw [hnull] at hpresent
    cases hpresent
  · exact absurd rfl h

lemma mentions_printed_of_labelOrEmpty (hpart : IsPhrase part)
    (h : mentions (fields.get name).labelOrEmpty part = true) :
    mentions (object fields).printed part = true := by
  have hne : (fields.get name).labelOrEmpty ≠ "" := fun hempty =>
    not_mentions_empty hpart (hempty ▸ h)
  obtain ⟨hmem, hlabel⟩ := mem_of_labelOrEmpty hne
  exact mentions_printed_of_mem hpart hmem (mentions_printed_of_label hpart (hlabel ▸ h))

/-- Whether a field mentions something, in its name or in its value. -/
def fieldMentions (f : String × Value) (part : String) : Bool :=
  mentions (quoted f.1) part || mentions f.2.printed part

/-- Of a field with basic texts neither the name nor the value gains anything by its quotes, and
both can be searched letter by letter. -/
lemma fieldMentions_text {s : String} (hpart : IsPhrase part) (hname : IsBasic name)
    (hs : IsBasic s) : fieldMentions (name, .text s) part =
      (occursIn part.toList (name.toList.map Char.toLower) ||
        occursIn part.toList (s.toList.map Char.toLower)) := by
  have hquoted : ∀ {t}, IsBasic t →
      mentions (quoted t) part = occursIn part.toList (t.toList.map Char.toLower) := by
    intro t ht
    rw [← mentions_eq_of_isBasic hpart ht, Bool.eq_iff_iff, mentions_quoted_iff hpart ht]
  rw [fieldMentions, hquoted hname]
  exact congrArg (_ || ·) (hquoted hs)

lemma mentions_printedFields_iff (hpart : IsWord part) (fields : Fields) :
    mentions (printedFields fields) part = true ↔ ∃ f ∈ fields, fieldMentions f part = true := by
  have hcolon : IsSeparator ": " := by decide +kernel
  have hcomma : IsSeparator ", " := by decide +kernel
  have hfield : ∀ f : String × Value,
      mentions (quoted f.1 ++ ": " ++ f.2.printed) part = true ↔ fieldMentions f part = true := by
    intro f
    rw [mentions_separated_iff hpart hcolon, fieldMentions, Bool.or_eq_true]
  induction fields with
  | nil => simpa [printedFields] using not_mentions_empty hpart.isPhrase
  | cons f rest ih =>
    cases rest with
    | nil => simpa [printedFields] using hfield f
    | cons g rest =>
      rw [printedFields_cons, mentions_separated_iff hpart hcomma]
      exact (or_congr (hfield f) ih).trans
        (List.exists_mem_cons_iff (fun f => fieldMentions f part = true) f (g :: rest)).symm

/-- A word stands in the printed form of an object exactly if one of its fields mentions it. -/
theorem mentions_printed_iff (hpart : IsWord part) :
    mentions (object fields).printed part = true ↔ ∃ f ∈ fields, fieldMentions f part = true := by
  have hopen : IsSeparator "\x7b" := by decide +kernel
  have hclose : IsSeparator "\x7d" := by decide +kernel
  rw [printed, mentions_append_separator_iff hpart hclose,
    mentions_separator_append_iff hpart hopen, mentions_printedFields_iff hpart]

end EditorialDesk.Value

/-! ## What an error says -/
namespace EditorialDesk.DatabaseError

open Text

variable {e : DatabaseError} {part name : String} {v : Value}

/-- A word stands in the text of an error if it stands in the printed form. -/
lemma holds_text_iff (e : DatabaseError) (hpart : IsWord part) :
    holds e.text part = true ↔ mentions e.printed part = true := by
  have hspace : IsSeparator " " := by decide +kernel
  change mentions (e.code.labelOrEmpty ++ " " ++ e.message.labelOrEmpty ++ " " ++ e.printed) part =
    true ↔ _
  rw [mentions_separated_iff hpart hspace, mentions_separated_iff hpart hspace]
  constructor
  · rintro ((h | h) | h)
    · exact Value.mentions_printed_of_labelOrEmpty hpart.isPhrase h
    · exact Value.mentions_printed_of_labelOrEmpty hpart.isPhrase h
    · exact h
  · exact .inr

/-- A phrase stands in the message with the printed form behind it if it stands in that. -/
lemma holds_message_iff (e : DatabaseError) (hpart : IsPhrase part) :
    holds (lower (e.message.labelOrEmpty ++ " " ++ e.printed)) part = true ↔
      mentions e.printed part = true := by
  have hopen : ∀ c ∈ "\x7b".toList, lowerChar c = [c] ∧ c ∉ part.toList := by
    intro c hc
    obtain rfl := List.mem_singleton.1 hc
    exact ⟨by decide +kernel, fun hmem => Bool.false_ne_true (hpart.isPlain _ hmem)⟩
  have hinfix : e.printed.toList <:+: (e.message.labelOrEmpty ++ " " ++ e.printed).toList := by
    rw [String.toList_append]
    exact (List.suffix_append _ _).isInfix
  refine ⟨fun h => ?_, mentions_of_infix hpart hinfix⟩
  obtain ⟨rest, hrest⟩ : ∃ rest, e.printed = "\x7b" ++ rest :=
    ⟨_, by rw [printed, Value.printed, String.append_assoc]⟩
  change mentions (e.message.labelOrEmpty ++ " " ++ e.printed) part = true at h
  rw [hrest, ← String.append_assoc, mentions_split_iff hpart (by decide) hopen,
    mentions_append_space_iff hpart] at h
  rcases h with h | h
  · exact Value.mentions_printed_of_labelOrEmpty hpart h
  · refine mentions_of_infix hpart ?_ h
    rw [hrest, String.toList_append]
    exact (List.suffix_append _ _).isInfix

lemma mentions_printed_of_mem (hpart : IsPhrase part) (hmem : (name, v) ∈ e.payload)
    (h : mentions v.label part = true) : mentions e.printed part = true :=
  Value.mentions_printed_of_mem hpart hmem (Value.mentions_printed_of_label hpart h)

lemma holds_printed_of_mem (hpart : IsNumeral part) (hmem : (name, v) ∈ e.payload)
    (h : holds v.label part = true) : holds e.printed part = true :=
  (mentions_numeral_iff hpart).1 <|
    mentions_printed_of_mem hpart.isWord.isPhrase hmem ((mentions_numeral_iff hpart).2 h)

/-- A code is in the printed form of its error. -/
lemma holds_printed_of_code {code : String} (hcode : IsNumeral code) (h : e.code.label = code) :
    holds e.printed code = true := by
  have hne : e.code ≠ .null := by
    intro hnull
    rw [hnull] at h
    have hdigit := hcode.isDigit 'N' (by rw [← h]; decide)
    cases hdigit
  exact holds_printed_of_mem hcode (Value.mem_of_get rfl hne) (holds_iff.2 (h ▸ List.infix_rfl))

lemma mentions_printed_of_message (hpart : IsPhrase part)
    (hnull : ¬mentions Value.null.label part = true) (h : mentions e.message.label part = true) :
    mentions e.printed part = true := by
  have hne : e.message ≠ .null := fun heq => hnull (heq ▸ h)
  exact mentions_printed_of_mem hpart (Value.mem_of_get rfl hne) h

end EditorialDesk.DatabaseError
