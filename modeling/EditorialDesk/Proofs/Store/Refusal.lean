import EditorialDesk.Proofs.Database.Firm
import EditorialDesk.Proofs.Database.Report
import EditorialDesk.Proofs.Intake.Enrollment

/-!
# Enrolments that the database refuses

An enrolment is passed over in silence if the error with which its insert was refused is
taken for the report of a seat that is taken. That is told by a number, which is looked for
not in the code of the error but in all that it says. An error of another code that quotes
the number, in the name of a user for instance, is taken for such a report as well.
-/
namespace EditorialDesk

open Text

/-- An error is taken for the report of a taken seat if its printed form has the number in it. -/
lemma DatabaseError.isUniqueViolation_iff (e : DatabaseError) :
    e.isUniqueViolation = true ↔ holds e.printed "23505" = true := by
  have hpart : IsNumeral "23505" := by decide
  rw [isUniqueViolation, holds_text_iff e hpart.isWord, mentions_numeral_iff hpart]

namespace Database

variable {db mid : Database} {table : String} {row : Row} {e : DatabaseError}

lemma apply_ne_rejected (db : Database) (table : String) (row : Row) (e : DatabaseError) :
    (db.apply (.insert table row)).1 ≠ .error (.rejected e) := by
  have hreply : ∀ stored, db.reply table stored ≠ .error (.rejected e) := by
    intro stored
    rcases db.reply_cases table with h | ⟨v, h⟩ | h <;> simp [h]
  unfold apply
  cases db.unreadable? (Call.insert table row).table with
  | none => exact hreply _
  | some contents =>
    cases contents with
    | list items => exact hreply _
    | _ => nofun

/-- An insert that is refused leaves every table as it is. -/
lemma contents_of_rejected (h : db.perform (.insert table row) = (.error (.rejected e), mid))
    (other : String) : mid.contents other = db.contents other := by
  unfold perform at h
  dsimp only at h
  split at h
  · exact (Prod.mk.inj h).2 ▸ rfl
  · exact (Prod.mk.inj h).2 ▸ rfl
  · split at h
    · exact (Prod.mk.inj h).2 ▸ rfl
    · exact (Prod.mk.inj h).2 ▸ rfl
    · exact absurd (congrArg Prod.fst h) (apply_ne_rejected _ table row e)

end Database

namespace Store

open Database Session

variable {db mid : Database} {now : Calendar.Moment} {e : Enrollment} {err : DatabaseError}

/-- An enrolment whose insert is refused is passed over, or ends with a fault. -/
lemma run_enroll_rejected
    (h : db.perform (.insert Table.stageAssignments (assignmentRow now e)) =
      (.error (.rejected err), mid)) :
    (session (.shows now) (.enroll e)).run db =
      (if err.isUniqueViolation then .ok none else .error (.ofLookup (.rejected err)), mid) := by
  change (enroll now e).run db = _
  unfold enroll
  dsimp only
  rw [run_attempt, h]
  dsimp only
  split <;> rfl

/-- The fault of an enrolment is the error itself, or names a table that it reports missing. -/
lemma ofLookup_rejected (err : DatabaseError) : Fault.ofLookup (.rejected err) = .rejected err ∨
    ∃ table ∈ Table.searched, Fault.ofLookup (.rejected err) = .missingTable table := by
  simp only [Fault.ofLookup]
  cases htable : err.missingTable? with
  | none => exact .inl rfl
  | some table =>
    refine .inr ⟨table, ?_, rfl⟩
    unfold DatabaseError.missingTable? missingTableIn? at htable
    split at htable
    · exact List.mem_of_find?_eq_some htable
    · cases htable

/-- An enrolment that the database refuses changes nothing. It is passed over exactly if the
printed form of the error has the number of a violated constraint in it, wherever that stands;
otherwise it ends with the error itself, or with the name of a table that is missing. -/
theorem refused_enrollment
    (h : db.perform (.insert Table.stageAssignments (assignmentRow now e)) =
      (.error (.rejected err), mid)) :
    ∃ r, (session (.shows now) (.enroll e)).run db = (r, mid) ∧
      (∀ table, mid.contents table = db.contents table) ∧
      (r = .ok none ↔ holds err.printed "23505" = true) ∧
      (err.code.label = "23505" → r = .ok none) ∧
      (r ≠ .ok none → r = .error (.rejected err) ∨
        ∃ table ∈ Table.searched, r = .error (.missingTable table)) := by
  have hrun := run_enroll_rejected h
  have hcode : err.code.label = "23505" → holds err.printed "23505" = true :=
    DatabaseError.holds_printed_of_code (by decide)
  refine ⟨_, hrun, contents_of_rejected h, ?_⟩
  by_cases hviolation : err.isUniqueViolation = true
  · have hholds := (DatabaseError.isUniqueViolation_iff err).1 hviolation
    rw [if_pos hviolation]
    exact ⟨iff_of_true rfl hholds, fun _ => rfl, fun hne => absurd rfl hne⟩
  · have hholds : ¬holds err.printed "23505" = true := fun hholds =>
      hviolation ((DatabaseError.isUniqueViolation_iff err).2 hholds)
    rw [if_neg hviolation]
    refine ⟨iff_of_false nofun hholds, fun hlabel => absurd (hcode hlabel) hholds, fun _ => ?_⟩
    exact (ofLookup_rejected err).imp (congrArg Except.error) fun ⟨table, hmem, heq⟩ =>
      ⟨table, hmem, congrArg Except.error heq⟩

/-- The report of a user who does not exist, whose name has a number in it. -/
def unknownParticipant : DatabaseError :=
  ⟨[("code", .text "23503"),
    ("message", .text <| "insert or update on table \"stage_assignments\" violates foreign key " ++
      "constraint \"stage_assignments_user_id_fkey\""),
    ("details", .text "Key (user_id)=(u-23505) is not present in table \"users\"."),
    ("hint", .null)]⟩

/-- The small office, where no such user exists. -/
def strictOffice : Database :=
  office.script ⟨Table.stageAssignments, "insert", some 0, .rejected unknownParticipant⟩

/-- The enrolment of that user. -/
def strangerSeat : Enrollment := ⟨.text "sub-1", .text "g-1", .text "u-23505", .bool false⟩

lemma strictOffice_perform (now : Calendar.Moment) :
    strictOffice.perform (.insert Table.stageAssignments (assignmentRow now strangerSeat)) =
      (.error (.rejected unknownParticipant),
        strictOffice.note (.insert Table.stageAssignments (assignmentRow now strangerSeat))) :=
  rfl

lemma holds_unknownParticipant : holds unknownParticipant.printed "23505" = true := by
  have hdetails : ("details",
      Value.text "Key (user_id)=(u-23505) is not present in table \"users\".") ∈
        unknownParticipant.payload := by
    simp [unknownParticipant]
  exact DatabaseError.holds_printed_of_mem (by decide) hdetails (by decide +kernel)

/-- In the small office the user who does not exist is passed over. -/
theorem strictOffice_refusal :
    strictOffice.perform (.insert Table.stageAssignments (assignmentRow Intake.dawn strangerSeat)) =
      (.error (.rejected unknownParticipant),
        strictOffice.note
          (.insert Table.stageAssignments (assignmentRow Intake.dawn strangerSeat))) ∧
    ((session (.shows Intake.dawn) (.enroll strangerSeat)).run strictOffice).1 = .ok none := by
  have hperform := strictOffice_perform Intake.dawn
  obtain ⟨r, hrun, -, hiff, -⟩ := refused_enrollment hperform
  refine ⟨hperform, ?_⟩
  rw [hrun]
  exact hiff.2 holds_unknownParticipant

/-- An enrolment is dropped without a word though the code of the error is another one. -/
theorem strictOffice_drops : unknownParticipant.code.label ≠ "23505" ∧
    strictOffice.perform (.insert Table.stageAssignments (assignmentRow Intake.dawn strangerSeat)) =
      (.error (.rejected unknownParticipant),
        strictOffice.note
          (.insert Table.stageAssignments (assignmentRow Intake.dawn strangerSeat))) ∧
    ((session (.shows Intake.dawn) (.enroll strangerSeat)).run strictOffice).1 = .ok none := by
  have hperform := strictOffice_perform Intake.dawn
  have hviolation : unknownParticipant.isUniqueViolation = true :=
    (DatabaseError.isUniqueViolation_iff _).2 holds_unknownParticipant
  refine ⟨by decide, hperform, ?_⟩
  rw [run_enroll_rejected hperform, hviolation]
  rfl

end Store
end EditorialDesk
