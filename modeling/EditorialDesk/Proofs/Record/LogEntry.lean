import EditorialDesk.Proofs.Record.Reread

/-!
# Log entries that are read back

The parameters of a log entry are shown as they are, but for the numbers that are not
finite. So the entry is read back if there are none of these; otherwise the entry that is
read back has null in their place, and is shown in the same form.
-/
namespace EditorialDesk

open Record

namespace Binary64

def isFinite : Binary64 → Bool
  | .finite .. => true
  | .infinite _ | .nan => false

end Binary64

namespace Value

mutual

/-- Whether all numbers among the parts of a value are finite. -/
def isFinite : Value → Bool
  | .float x => x.isFinite
  | .list items => areFinite items
  | .object fields => fieldsAreFinite fields
  | _ => true

def areFinite : List Value → Bool
  | [] => true
  | x :: rest => x.isFinite && areFinite rest

def fieldsAreFinite : List (String × Value) → Bool
  | [] => true
  | (_, x) :: rest => x.isFinite && fieldsAreFinite rest

end

lemma ofFinite_eq_iff {x : Binary64} : ofFinite x = .float x ↔ x.isFinite = true := by
  cases x <;> simp [ofFinite, Binary64.isFinite]

mutual

/-- A value is shown as it is if and only if all its numbers are finite. -/
theorem finite_eq_self_iff : (v : Value) → (v.finite = v ↔ v.isFinite = true)
  | .null | .bool _ | .int _ | .text _ => by simp [finite, isFinite]
  | .float x => by simp [finite, isFinite, ofFinite_eq_iff]
  | .list items => by simp [finite, isFinite, finiteItems_eq_self_iff items]
  | .object fields => by simp [finite, isFinite, finiteFields_eq_self_iff fields]

theorem finiteItems_eq_self_iff :
    (items : List Value) → (finiteItems items = items ↔ areFinite items = true)
  | [] => by simp [finiteItems, areFinite]
  | x :: rest => by
    simp [finiteItems, areFinite, finite_eq_self_iff x, finiteItems_eq_self_iff rest]

theorem finiteFields_eq_self_iff : (fields : List (String × Value)) →
    (finiteFields fields = fields ↔ fieldsAreFinite fields = true)
  | [] => by simp [finiteFields, fieldsAreFinite]
  | (_, x) :: rest => by
    simp [finiteFields, fieldsAreFinite, finite_eq_self_iff x, finiteFields_eq_self_iff rest]

end

end Value

namespace LogEntry

variable {fields : Fields} {e : LogEntry}

/-- The entry with null in place of each number among its parameters that is not finite. -/
def finite (e : LogEntry) : LogEntry := { e with params := Value.finiteFields e.params }

/-- The parameters as a value, whose numbers and depth decide how the entry is shown. -/
def paramsValue (e : LogEntry) : Value := .object e.params

lemma finite_eq_self_iff : e.finite = e ↔ e.paramsValue.isFinite = true := by
  have hparams : e.finite = e ↔ Value.finiteFields e.params = e.params := by
    obtain ⟨id, submissionId, userId, type, messageKey, params, date⟩ := e
    simp [finite]
  rw [hparams, Value.finiteFields_eq_self_iff, paramsValue, Value.isFinite]

lemma toValue_finite (e : LogEntry) : e.finite.toValue = e.toValue := by
  have hparams : (Value.object e.finite.params).finite = (Value.object e.params).finite := by
    simp only [finite, Value.finite, Value.finiteFields_finiteFields]
  unfold toValue
  rw [hparams]
  rfl

/-- Whether the entry is shown, and how, does not depend on which numbers are not finite. -/
lemma shown?_finite (e : LogEntry) : e.finite.shown? = e.shown? := by
  have hdepth : (Value.object e.finite.params).depth = (Value.object e.params).depth := by
    simp only [finite, Value.depth, Value.depthOfFields_finiteFields]
  rw [shown?, hdepth, toValue_finite, shown?]

lemma ofFields_eq_accepted : ofFields fields = .accepted e ↔
    Record.optional "id" text fields = .accepted e.id ∧
      required "submission_id" text fields = .accepted e.submissionId ∧
      Record.optional "user_id" text fields = .accepted e.userId ∧
      required "event_type" (worded EventType.ofWord?) fields = .accepted e.type ∧
      required "message_key" text fields = .accepted e.messageKey ∧
      withDefault "params" [] object fields = .accepted e.params ∧
      required "date_logged" moment fields = .accepted e.dateLogged := by
  rw [Checked.eq_accepted_iff]
  simp only [ofFields, ofFieldsAt, Checked.exists_seq, Checked.exists_fmap]
  constructor
  · rintro ⟨_, hid, _, hsubmission, _, huser, _, htype, _, hkey, _, hparams, _, hdate, rfl⟩
    exact ⟨hid, hsubmission, huser, htype, hkey, hparams, hdate⟩
  · rintro ⟨hid, hsubmission, huser, htype, hkey, hparams, hdate⟩
    exact ⟨_, hid, _, hsubmission, _, huser, _, htype, _, hkey, _, hparams, _, hdate, rfl⟩

/-- What is shown of an entry that was read is read as the entry, its numbers made finite. -/
theorem read_toValue {v : Value} (h : read v = .accepted e) :
    read e.toValue = .accepted e.finite := by
  obtain ⟨fields, rfl, hfields⟩ := record_eq_accepted.1 h
  obtain ⟨hid, hsubmission, huser, htype, hkey, -, hdate⟩ := ofFields_eq_accepted.1 hfields
  have htypes := rereads_worded EventType.ofWord?_word
  have hshown : (Value.object e.params).finite = .object e.finite.params := by
    simp only [Value.finite, finite]
  unfold toValue
  rw [hshown]
  exact ofFields_eq_accepted.2
    ⟨rereads_text?.optional rfl hid rfl, rereads_text.required hsubmission rfl,
      rereads_text?.optional rfl huser rfl, htypes.required htype rfl,
      rereads_text.required hkey rfl, withDefault_of_get? [] rfl rfl,
      rereads_moment.required hdate rfl⟩

end LogEntry

/-- What is read of a record of any kind is shown in a form that is read as the same record, and so
is shown in the same form again. Only a log entry is not shown if its parameters nest too deep, and
it is read back with null in place of numbers that are not finite; it is the same entry if and only
if there are none. -/
theorem records_reread : Rereads Review.Assignment.read Review.Assignment.toValue ∧
    Rereads Submission.read Submission.toValue ∧ Rereads Publication.read Publication.toValue ∧
    Rereads UserGroup.read UserGroup.toValue ∧
    Rereads StageAssignment.read StageAssignment.toValue ∧
    Rereads NotificationRequest.read NotificationRequest.toValue ∧
    ∀ v e, LogEntry.read v = .accepted e →
      (e.shown?.isSome = true ↔ e.paramsValue.depth ≤ 255) ∧
      (∀ shown, e.shown? = some shown →
        LogEntry.read shown = .accepted e.finite ∧ e.finite.shown? = some shown) ∧
      (e.finite = e ↔ e.paramsValue.isFinite = true) := by
  refine ⟨Review.Assignment.rereads, Submission.rereads, Publication.rereads, UserGroup.rereads,
    StageAssignment.rereads, NotificationRequest.rereads, fun v e h => ⟨?_, fun shown hshown => ?_,
    LogEntry.finite_eq_self_iff⟩⟩
  · unfold LogEntry.shown?
    split
    · next hdepth => exact iff_of_true rfl hdepth
    · next hdepth => exact iff_of_false Bool.false_ne_true hdepth
  · have hsame : shown = e.toValue := by
      unfold LogEntry.shown? at hshown
      split at hshown
      · exact (Option.some.inj hshown).symm
      · cases hshown
    rw [e.shown?_finite]
    exact ⟨hsame ▸ LogEntry.read_toValue h, hshown⟩

/-- An entry as it is given, with one parameter. -/
def givenWith (param : Value) : Value :=
  .object [("submission_id", .text "sub-1"), ("event_type", .text "participant_assigned"),
    ("message_key", .text "key"), ("params", .object [("a", param)]),
    ("date_logged", .text "0001-01-01T00:00:00Z")]

lemma exists_read_givenWith (param : Value) : ∃ e, LogEntry.read (givenWith param) = .accepted e ∧
    e.paramsValue = .object [("a", param)] := by
  obtain ⟨m, hm⟩ : ∃ m, moment (.text "0001-01-01T00:00:00Z") = .accepted m := by
    have hread : ∃ m, Calendar.readMoment "0001-01-01T00:00:00Z" = .moment m :=
      ⟨⟨⟨0, by decide⟩, some .utc⟩, by decide +kernel⟩
    obtain ⟨m, hm⟩ := hread
    exact ⟨m, by simp only [moment, hm]⟩
  refine ⟨⟨none, "sub-1", none, .participantAssigned, "key", [("a", param)], m⟩,
    LogEntry.ofFields_eq_accepted.2 ⟨rfl, rfl, rfl, rfl, rfl, rfl, ?_⟩, rfl⟩
  exact required_eq_accepted.2 ⟨_, rfl, hm⟩

/-- So many lists, each of them in another. -/
def nested : Nat → Value
  | 0 => .list []
  | n + 1 => .list [nested n]

lemma depth_nested (n : Nat) : (nested n).depth = n := by
  induction n with
  | zero => rfl
  | succ n ih => simp [nested, Value.depth, Value.depthOfItems, ih]

/-- An entry with an infinite parameter is shown, but not read back as it was; one whose parameters
nest too deep is not shown. -/
theorem givenWith_not_reread :
    (∃ e shown, LogEntry.read (givenWith (.float (.infinite false))) = .accepted e ∧
      e.shown? = some shown ∧ LogEntry.read shown ≠ .accepted e) ∧
    ∃ e, LogEntry.read (givenWith (nested 256)) = .accepted e ∧ e.shown? = none := by
  constructor
  · obtain ⟨e, hread, hparams⟩ := exists_read_givenWith (.float (.infinite false))
    have hshown : e.shown? = some e.toValue := by
      have hdepth : e.paramsValue.depth ≤ LogEntry.maxDepth := by rw [hparams]; decide
      exact if_pos hdepth
    refine ⟨e, _, hread, hshown, fun hagain => ?_⟩
    have hsame := LogEntry.finite_eq_self_iff.1
      (Checked.accepted.inj ((LogEntry.read_toValue hread).symm.trans hagain))
    rw [hparams] at hsame
    exact absurd hsame (by decide)
  · obtain ⟨e, hread, hparams⟩ := exists_read_givenWith (nested 256)
    have hdepth : ¬e.paramsValue.depth ≤ LogEntry.maxDepth := by
      rw [hparams, Value.depth, Value.depthOfFields, depth_nested]
      decide
    exact ⟨e, hread, if_neg hdepth⟩

end EditorialDesk
