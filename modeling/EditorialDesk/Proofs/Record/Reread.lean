import EditorialDesk.Notification
import EditorialDesk.Proofs.Record.Field
import EditorialDesk.Review.Assignment
import EditorialDesk.Submission
import EditorialDesk.UserGroup

/-!
# Records that are read back

A record is read if each of its fields is, and whatever the spelling of its fields was it is
shown in one form, which is read as the same record. Only the parameters of a log entry can
hold anything: where numbers among them are not finite the entry is shown with null in their
place, and where they nest too deep it is not shown.
-/
namespace EditorialDesk

open Record

variable {fields : Fields}

lemma Stage.isWord_code (s : Stage) : isWord s.code = true := by cases s <;> decide

lemma Role.isWord_code (r : Role) : isWord r.code = true := by cases r <;> decide

lemma NotificationLevel.isWord_code (l : NotificationLevel) : isWord l.code = true := by
  cases l <;> decide

lemma rereads_stage : Rereads (numbered Stage.ofCode?) fun s => .int s.code :=
  rereads_numbered Stage.isWord_code Stage.ofCode?_code

namespace Publication

lemma ofFields_eq_accepted {p : Publication} : ofFields fields = .accepted p ↔
    required "id" text fields = .accepted p.id ∧
      withDefault "category_ids" [] (list text) fields = .accepted p.categoryIds := by
  rw [Checked.eq_accepted_iff]
  simp only [ofFields, Checked.exists_seq, Checked.exists_fmap]
  constructor
  · rintro ⟨_, hid, _, hcategories, rfl⟩
    exact ⟨hid, hcategories⟩
  · rintro ⟨hid, hcategories⟩
    exact ⟨_, hid, _, hcategories, rfl⟩

theorem rereads : Rereads read toValue := by
  intro v p h
  obtain ⟨fields, rfl, hfields⟩ := record_eq_accepted.1 h
  obtain ⟨hid, hcategories⟩ := ofFields_eq_accepted.1 hfields
  exact ofFields_eq_accepted.2
    ⟨rereads_text.required hid rfl, rereads_text.list.withDefault rfl hcategories rfl⟩

lemma rereads? : Rereads (orNull read) fun | some p => p.toValue | none => .null :=
  rereads.orNull nofun (fun _ => rfl) rfl

end Publication

namespace Submission

lemma ofFields_eq_accepted {s : Submission} : ofFields fields = .accepted s ↔
    required "id" text fields = .accepted s.id ∧
      required "context_id" text fields = .accepted s.contextId ∧
      Record.optional "section_id" text fields = .accepted s.sectionId ∧
      Record.optional "current_publication" Publication.read fields = .accepted s.publication ∧
      withDefault "submission_progress" 1 whole fields = .accepted s.progress ∧
      Record.optional "date_submitted" moment fields = .accepted s.dateSubmitted ∧
      Record.optional "date_last_activity" moment fields = .accepted s.dateLastActivity ∧
      Record.optional "last_modified" moment fields = .accepted s.lastModified := by
  rw [Checked.eq_accepted_iff]
  simp only [ofFields, Checked.exists_seq, Checked.exists_fmap]
  constructor
  · rintro ⟨_, hid, _, hcontext, _, hsection, _, hpublication, _, hprogress, _, hsubmitted, _,
      hactive, _, hmodified, rfl⟩
    exact ⟨hid, hcontext, hsection, hpublication, hprogress, hsubmitted, hactive, hmodified⟩
  · rintro ⟨hid, hcontext, hsection, hpublication, hprogress, hsubmitted, hactive, hmodified⟩
    exact ⟨_, hid, _, hcontext, _, hsection, _, hpublication, _, hprogress, _, hsubmitted, _,
      hactive, _, hmodified, rfl⟩

theorem rereads : Rereads read toValue := by
  intro v s h
  obtain ⟨fields, rfl, hfields⟩ := record_eq_accepted.1 h
  obtain ⟨hid, hcontext, hsection, hpublication, hprogress, hsubmitted, hactive, hmodified⟩ :=
    ofFields_eq_accepted.1 hfields
  exact ofFields_eq_accepted.2
    ⟨rereads_text.required hid rfl, rereads_text.required hcontext rfl,
      rereads_text?.optional rfl hsection rfl, Publication.rereads?.optional rfl hpublication rfl,
      rereads_whole.withDefault rfl hprogress rfl, rereads_moment?.optional rfl hsubmitted rfl,
      rereads_moment?.optional rfl hactive rfl, rereads_moment?.optional rfl hmodified rfl⟩

end Submission

namespace UserGroup

/-- Stages are read in any order and with repeats, and they are written in order. -/
lemma rereads_stages : Rereads (fun v => (set (numbered Stage.ofCode?) v).map Stage.gather)
    fun stages => .list (stages.map fun s => .int s.code) := by
  intro v gathered h
  obtain ⟨stages, hstages, rfl⟩ := Checked.map_eq_accepted.1 h
  have hread : set (numbered Stage.ofCode?)
      (.list ((Stage.gather stages).map fun s => .int s.code)) = .accepted (Stage.gather stages) :=
    Checked.items_map (fun s _ => rereads_stage (.int s.code) s (by
      simp only [numbered, whole, s.isWord_code, s.ofCode?_code, if_true])) 0
  dsimp only
  rw [hread]
  exact congrArg Checked.accepted (Stage.gather_congr fun s => Stage.mem_gather)

lemma ofFields_eq_accepted {g : UserGroup} : ofFields fields = .accepted g ↔
    required "id" text fields = .accepted g.id ∧
      required "context_id" text fields = .accepted g.contextId ∧
      required "role_id" (numbered Role.ofCode?) fields = .accepted g.role ∧
      withDefault "name" "" text fields = .accepted g.name ∧
      withDefault "recommend_only" false truth fields = .accepted g.recommendOnly ∧
      withDefault "stages" [] (fun v => (set (numbered Stage.ofCode?) v).map Stage.gather) fields =
        .accepted g.stages := by
  rw [Checked.eq_accepted_iff]
  simp only [ofFields, Checked.exists_seq, Checked.exists_fmap]
  constructor
  · rintro ⟨_, hid, _, hcontext, _, hrole, _, hname, _, hflag, _, hstages, rfl⟩
    exact ⟨hid, hcontext, hrole, hname, hflag, hstages⟩
  · rintro ⟨hid, hcontext, hrole, hname, hflag, hstages⟩
    exact ⟨_, hid, _, hcontext, _, hrole, _, hname, _, hflag, _, hstages, rfl⟩

theorem rereads : Rereads read toValue := by
  intro v g h
  obtain ⟨fields, rfl, hfields⟩ := record_eq_accepted.1 h
  obtain ⟨hid, hcontext, hrole, hname, hflag, hstages⟩ := ofFields_eq_accepted.1 hfields
  have hroles := rereads_numbered Role.isWord_code Role.ofCode?_code
  exact ofFields_eq_accepted.2
    ⟨rereads_text.required hid rfl, rereads_text.required hcontext rfl, hroles.required hrole rfl,
      rereads_text.withDefault rfl hname rfl, rereads_truth.withDefault rfl hflag rfl,
      rereads_stages.withDefault rfl hstages rfl⟩

end UserGroup

namespace StageAssignment

lemma ofFields_eq_accepted {a : StageAssignment} : ofFields fields = .accepted a ↔
    Record.optional "id" text fields = .accepted a.id ∧
      required "submission_id" text fields = .accepted a.seat.submissionId ∧
      required "user_group_id" text fields = .accepted a.seat.groupId ∧
      required "user_id" text fields = .accepted a.seat.userId ∧
      withDefault "recommend_only" false truth fields = .accepted a.recommendOnly ∧
      Record.optional "date_assigned" moment fields = .accepted a.dateAssigned := by
  rw [Checked.eq_accepted_iff]
  simp only [ofFields, Checked.exists_seq, Checked.exists_fmap]
  constructor
  · rintro ⟨_, hid, _, hsubmission, _, hgroup, _, huser, _, hflag, _, hdate, rfl⟩
    exact ⟨hid, hsubmission, hgroup, huser, hflag, hdate⟩
  · rintro ⟨hid, hsubmission, hgroup, huser, hflag, hdate⟩
    exact ⟨_, hid, _, hsubmission, _, hgroup, _, huser, _, hflag, _, hdate, rfl⟩

theorem rereads : Rereads read toValue := by
  intro v a h
  obtain ⟨fields, rfl, hfields⟩ := record_eq_accepted.1 h
  obtain ⟨hid, hsubmission, hgroup, huser, hflag, hdate⟩ := ofFields_eq_accepted.1 hfields
  exact ofFields_eq_accepted.2
    ⟨rereads_text?.optional rfl hid rfl, rereads_text.required hsubmission rfl,
      rereads_text.required hgroup rfl, rereads_text.required huser rfl,
      rereads_truth.withDefault rfl hflag rfl, rereads_moment?.optional rfl hdate rfl⟩

end StageAssignment

namespace NotificationRequest

lemma ofFields_eq_accepted {r : NotificationRequest} : ofFields fields = .accepted r ↔
    required "user_id" text fields = .accepted r.userId ∧
      required "type" (worded NotificationType.ofWord?) fields = .accepted r.type ∧
      Record.optional "context_id" text fields = .accepted r.contextId ∧
      withDefault "target_type" .submission (worded TargetType.ofWord?) fields =
        .accepted r.targetType ∧
      required "target_id" text fields = .accepted r.targetId ∧
      withDefault "level" .normal (numbered NotificationLevel.ofCode?) fields =
        .accepted r.level := by
  rw [Checked.eq_accepted_iff]
  simp only [ofFields, Checked.exists_seq, Checked.exists_fmap]
  constructor
  · rintro ⟨_, huser, _, htype, _, hcontext, _, htargetType, _, htarget, _, hlevel, rfl⟩
    exact ⟨huser, htype, hcontext, htargetType, htarget, hlevel⟩
  · rintro ⟨huser, htype, hcontext, htargetType, htarget, hlevel⟩
    exact ⟨_, huser, _, htype, _, hcontext, _, htargetType, _, htarget, _, hlevel, rfl⟩

theorem rereads : Rereads read toValue := by
  intro v r h
  obtain ⟨fields, rfl, hfields⟩ : ∃ fields, v = .object fields ∧ ofFields fields = .accepted r := by
    cases v with
    | object fields => exact ⟨fields, rfl, h⟩
    | _ => cases h
  obtain ⟨huser, htype, hcontext, htargetType, htarget, hlevel⟩ := ofFields_eq_accepted.1 hfields
  have htypes := rereads_worded NotificationType.ofWord?_word
  have htargets := rereads_worded TargetType.ofWord?_word
  have hlevels := rereads_numbered NotificationLevel.isWord_code NotificationLevel.ofCode?_code
  exact ofFields_eq_accepted.2
    ⟨rereads_text.required huser rfl, htypes.required htype rfl,
      rereads_text?.optional rfl hcontext rfl, htargets.withDefault rfl htargetType rfl,
      rereads_text.required htarget rfl, hlevels.withDefault rfl hlevel rfl⟩

end NotificationRequest

namespace Review.Assignment

/-- A date of an assignment, as it is read from the field of its name. -/
def dateOf (name : String) (fields : Fields) : Checked (Option Calendar.Dated) :=
  (Record.optional name moment fields).map (Option.map .moment)

lemma dateOf_reread {name : String} {fields' : Fields} {date : Option Calendar.Dated}
    (hread : dateOf name fields = .accepted date)
    (hget : fields'.get? name = some (dateValue date)) : dateOf name fields' = .accepted date := by
  obtain ⟨m, hm, rfl⟩ := Checked.map_eq_accepted.1 hread
  have hvalue : dateValue (m.map .moment) = .ofMoment? m := by cases m <;> rfl
  have hagain : Record.optional name moment fields' = .accepted m :=
    rereads_moment?.optional rfl hm (hvalue ▸ hget)
  rw [dateOf, hagain]
  rfl

lemma ofFields_eq_accepted {a : Assignment} : ofFields fields = .accepted a ↔
    required "id" text fields = .accepted a.id ∧
      required "submission_id" text fields = .accepted a.submissionId ∧
      withDefault "stage_id" .externalReview (numbered Stage.ofCode?) fields = .accepted a.stage ∧
      required "reviewer_id" text fields = .accepted a.reviewerId ∧
      Record.optional "recommendation" text fields = .accepted a.recommendation ∧
      dateOf "date_response_due" fields = .accepted a.dateResponseDue ∧
      dateOf "date_due" fields = .accepted a.dateDue ∧
      dateOf "date_confirmed" fields = .accepted a.dateConfirmed ∧
      dateOf "date_received" fields = .accepted a.dateReceived ∧
      dateOf "date_completed" fields = .accepted a.dateCompleted ∧
      dateOf "date_acknowledged" fields = .accepted a.dateAcknowledged ∧
      withDefault "cancelled" false truth fields = .accepted a.cancelled ∧
      withDefault "declined" false truth fields = .accepted a.declined := by
  rw [Checked.eq_accepted_iff]
  simp only [ofFields, dateOf, Checked.exists_seq, Checked.exists_fmap]
  constructor
  · rintro ⟨_, hid, _, hsubmission, _, hstage, _, hreviewer, _, hrecommendation, _, hresponseDue, _,
      hdue, _, hconfirmed, _, hreceived, _, hcompleted, _, hacknowledged, _, hcancelled, _,
      hdeclined, rfl⟩
    exact ⟨hid, hsubmission, hstage, hreviewer, hrecommendation, hresponseDue, hdue, hconfirmed,
      hreceived, hcompleted, hacknowledged, hcancelled, hdeclined⟩
  · rintro ⟨hid, hsubmission, hstage, hreviewer, hrecommendation, hresponseDue, hdue, hconfirmed,
      hreceived, hcompleted, hacknowledged, hcancelled, hdeclined⟩
    exact ⟨_, hid, _, hsubmission, _, hstage, _, hreviewer, _, hrecommendation, _, hresponseDue, _,
      hdue, _, hconfirmed, _, hreceived, _, hcompleted, _, hacknowledged, _, hcancelled, _,
      hdeclined, rfl⟩

theorem rereads : Rereads read toValue := by
  intro v a h
  obtain ⟨fields, rfl, hfields⟩ := record_eq_accepted.1 h
  obtain ⟨hid, hsubmission, hstage, hreviewer, hrecommendation, hresponseDue, hdue, hconfirmed,
    hreceived, hcompleted, hacknowledged, hcancelled, hdeclined⟩ := ofFields_eq_accepted.1 hfields
  exact ofFields_eq_accepted.2
    ⟨rereads_text.required hid rfl, rereads_text.required hsubmission rfl,
      rereads_stage.withDefault rfl hstage rfl, rereads_text.required hreviewer rfl,
      rereads_text?.optional rfl hrecommendation rfl, dateOf_reread hresponseDue rfl,
      dateOf_reread hdue rfl, dateOf_reread hconfirmed rfl, dateOf_reread hreceived rfl,
      dateOf_reread hcompleted rfl, dateOf_reread hacknowledged rfl,
      rereads_truth.withDefault rfl hcancelled rfl, rereads_truth.withDefault rfl hdeclined rfl⟩

end Review.Assignment
end EditorialDesk
