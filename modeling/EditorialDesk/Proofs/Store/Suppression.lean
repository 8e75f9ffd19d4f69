import EditorialDesk.Proofs.Store.Refusal

/-!
# Notifications that the database refuses

A notification is dropped in silence if the error with which its insert was refused is taken
for the report of a user who does not exist. That is told by the number of a violated foreign
key and by the name of the key, but in place of the name the bare words do as well, and both
are looked for in all that the error says. A notification that breaks another key is dropped
just as one for such a user.
-/
namespace EditorialDesk

open Text

/-- An error is taken for the report of a user who does not exist if its printed form has the
number in it, and the name of the key or the words. -/
lemma DatabaseError.isOrphanUser_iff (e : DatabaseError) :
    e.isOrphanUser = true ↔ holds e.printed "23503" = true ∧
      (mentions e.printed "notifications_user_id_fkey" = true ∨
        mentions e.printed "foreign key" = true) := by
  have hnumber : IsNumeral "23503" := by decide
  have hphrase := hnumber.isWord.isPhrase
  have hkey : IsPhrase "notifications_user_id_fkey" := by decide
  have hwords : IsPhrase "foreign key" := by decide
  have hcode : holds (lower e.code.labelOrEmpty) "23503" = true →
      mentions e.printed "23503" = true := Value.mentions_printed_of_labelOrEmpty hphrase
  rw [← mentions_numeral_iff hnumber]
  simp only [isOrphanUser, Bool.and_eq_true, Bool.or_eq_true, holds_message_iff e hphrase,
    holds_message_iff e hkey, holds_message_iff e hwords, or_iff_right_of_imp hcode]

namespace Store

open Database Session

variable {db mid : Database} {now : Calendar.Moment} {n : Notice} {err : DatabaseError}

/-- A notification whose insert is refused is dropped, or ends with the error. -/
lemma run_notify_rejected
    (h : db.perform (.insert Table.notifications (notificationRow now n)) =
      (.error (.rejected err), mid)) :
    (session (.shows now) (.notify n)).run db =
      (if err.isOrphanUser then .ok none else .error (.rejected err), mid) := by
  change (notify now n).run db = _
  unfold notify
  rw [run_attempt, h]
  dsimp only
  split <;> rfl

/-- A notification that the database refuses changes nothing. It is dropped exactly if the printed
form of the error has the number of a violated foreign key in it and names the key of the users,
or speaks of a foreign key at all; otherwise it ends with the error itself. -/
theorem refused_notification
    (h : db.perform (.insert Table.notifications (notificationRow now n)) =
      (.error (.rejected err), mid)) :
    ∃ r, (session (.shows now) (.notify n)).run db = (r, mid) ∧
      (∀ table, mid.contents table = db.contents table) ∧
      (r = .ok none ↔ holds err.printed "23503" = true ∧
        (mentions err.printed "notifications_user_id_fkey" = true ∨
          mentions err.printed "foreign key" = true)) ∧
      (err.code.label = "23503" → mentions err.message.label "notifications_user_id_fkey" = true →
        r = .ok none) ∧
      (r ≠ .ok none → r = .error (.rejected err)) := by
  have hiff := DatabaseError.isOrphanUser_iff err
  refine ⟨_, run_notify_rejected h, contents_of_rejected h, ?_⟩
  by_cases horphan : err.isOrphanUser = true
  · rw [if_pos horphan]
    exact ⟨iff_of_true rfl (hiff.1 horphan), fun _ _ => rfl, fun hne => absurd rfl hne⟩
  · rw [if_neg horphan]
    refine ⟨iff_of_false nofun fun hsaid => horphan (hiff.2 hsaid), fun hcode hname => ?_,
      fun _ => rfl⟩
    have hnumber := DatabaseError.holds_printed_of_code (by decide) hcode
    have hkey := DatabaseError.mentions_printed_of_message (by decide) (by decide +kernel) hname
    exact absurd (hiff.2 ⟨hnumber, .inl hkey⟩) horphan

/-- The small office, where a notification is refused with an error. -/
def refusing (err : DatabaseError) : Database :=
  office.script ⟨Table.notifications, "insert", some 0, .rejected err⟩

lemma refusing_perform (err : DatabaseError) (n : Notice) (now : Calendar.Moment) :
    (refusing err).perform (.insert Table.notifications (notificationRow now n)) =
      (.error (.rejected err),
        (refusing err).note (.insert Table.notifications (notificationRow now n))) :=
  rfl

/-- A notification of which the journal is not known. Its user has a number in the name, and the
submission is named with words. -/
def wordyNotice : Notice where
  userId := .text "u-23503"
  type := .submissionSubmitted
  contextId := .null
  targetType := .submission
  targetId := .text "the foreign key of baroque opera"
  level := .normal

/-- The report that the journal is needed, which quotes the row. -/
def contextNeeded : DatabaseError :=
  ⟨[("code", .text "23502"),
    ("message", .text <| "null value in column \"context_id\" of relation \"notifications\" " ++
      "violates not-null constraint"),
    ("details", .text <| "Failing row contains (n-1, u-23503, null, submission_submitted, 2, " ++
      "submission, the foreign key of baroque opera)."),
    ("hint", .null)]⟩

/-- The number and the words in the quoted row are enough for the notification to be dropped. -/
theorem contextNeeded_dropped :
    (refusing contextNeeded).perform
        (.insert Table.notifications (notificationRow Intake.dawn wordyNotice)) =
      (.error (.rejected contextNeeded), (refusing contextNeeded).note
        (.insert Table.notifications (notificationRow Intake.dawn wordyNotice))) ∧
    contextNeeded.code.label ≠ "23503" ∧
    ((session (.shows Intake.dawn) (.notify wordyNotice)).run (refusing contextNeeded)).1 =
      .ok none := by
  have hperform := refusing_perform contextNeeded wordyNotice Intake.dawn
  have hdetails : ("details", contextNeeded.payload.get "details") ∈ contextNeeded.payload :=
    Value.mem_of_get rfl (by decide)
  obtain ⟨r, hrun, -, hiff, -⟩ := refused_notification hperform
  refine ⟨hperform, by decide, ?_⟩
  rw [hrun]
  refine hiff.2 ⟨?_, .inr ?_⟩
  · exact DatabaseError.holds_printed_of_mem (by decide) hdetails (by decide +kernel)
  · exact DatabaseError.mentions_printed_of_mem (by decide) hdetails
      (holds_lower (by decide +kernel) (by decide +kernel))

/-- A notification to a user who exists, about a submission to a journal that does not. -/
def strayNotice : Notice where
  userId := .text "u-1"
  type := .submissionSubmitted
  contextId := .text "ctx-9"
  targetType := .submission
  targetId := .text "sub-1"
  level := .normal

/-- The report of a journal that does not exist. -/
def unknownContext : DatabaseError :=
  ⟨[("code", .text "23503"),
    ("message", .text <| "insert or update on table \"notifications\" violates foreign key " ++
      "constraint \"notifications_context_id_fkey\""),
    ("details", .text "Key (context_id)=(ctx-9) is not present in table \"contexts\"."),
    ("hint", .null)]⟩

/-- A notification is dropped without a word though the key is not that of the users, which the
error does not mention. -/
theorem unknownContext_dropped :
    holds unknownContext.message.label
      "violates foreign key constraint \"notifications_context_id_fkey\"" = true ∧
    mentions unknownContext.printed "notifications_user_id_fkey" = false ∧
    (refusing unknownContext).perform
        (.insert Table.notifications (notificationRow Intake.dawn strayNotice)) =
      (.error (.rejected unknownContext), (refusing unknownContext).note
        (.insert Table.notifications (notificationRow Intake.dawn strayNotice))) ∧
    ((session (.shows Intake.dawn) (.notify strayNotice)).run (refusing unknownContext)).1 =
      .ok none := by
  have hperform := refusing_perform unknownContext strayNotice Intake.dawn
  have horphan : unknownContext.isOrphanUser = true := by
    refine (DatabaseError.isOrphanUser_iff _).2 ⟨?_, .inr ?_⟩
    · exact DatabaseError.holds_printed_of_code (by decide) rfl
    · exact DatabaseError.mentions_printed_of_message (by decide) (by decide +kernel)
        (holds_lower (by decide +kernel) (by decide +kernel))
  have hkey : mentions unknownContext.printed "notifications_user_id_fkey" = false := by
    rw [Bool.eq_false_iff, ne_eq, DatabaseError.printed, Value.mentions_printed_iff (by decide)]
    rintro ⟨f, hf, hmentions⟩
    simp only [unknownContext, List.mem_cons, List.not_mem_nil, or_false] at hf
    rcases hf with rfl | rfl | rfl | rfl
    · rw [Value.fieldMentions_text (by decide) (by decide) (by decide)] at hmentions
      revert hmentions
      decide +kernel
    · rw [Value.fieldMentions_text (by decide) (by decide) (by decide +kernel)] at hmentions
      revert hmentions
      decide +kernel
    · rw [Value.fieldMentions_text (by decide) (by decide) (by decide +kernel)] at hmentions
      revert hmentions
      decide +kernel
    · revert hmentions
      decide +kernel
  refine ⟨by decide +kernel, hkey, hperform, ?_⟩
  rw [run_notify_rejected hperform, horphan]
  rfl

end Store
end EditorialDesk
