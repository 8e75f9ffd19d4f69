import EditorialDesk.Proofs.Store.Register
import EditorialDesk.Proofs.Value.Alike

/-!
# Notifications, stored and withdrawn

A withdrawal deletes whatever is like a notification that it matches. Where notifications
are proper rows with texts for kind and target, these are just the ones that it matches;
a notification of a kind that is not withdrawn stays in any case.
-/
namespace EditorialDesk

/-- A row that tells by texts what kind of notification it is and what it is about. -/
structure Fields.IsNotification (row : Row) : Prop where
  proper : (Value.object row).IsProper
  type : ∃ word, row.get "type" = .text word
  target : ∃ word, row.get "assoc_type" = .text word
  targetId : ∃ id, row.get "assoc_id" = .text id

namespace Store

open Database

variable {types : List NotificationType} {target : TargetType} {targetId : Value}
variable {row other : Row} {rows : List Row}

/-- What a withdrawal matches. -/
lemma meets_withdrawn : meets (withdrawn types target targetId) row = true ↔
    (∃ type ∈ types, row.label "type" = type.word) ∧ row.label "assoc_type" = target.word ∧
      row.label "assoc_id" = targetId.label := by
  simp only [withdrawn, meets_cons, meets_nil, admits_equals, admits_among, and_true, List.mem_map]
  simp only [eq_comm]

/-- What is like a notification that is matched has its kind, and is about the same. -/
lemma meets_withdrawn_of_alike (hrow : row.IsNotification) (h : Value.alikeRows row other = true)
    (hother : meets (withdrawn types target targetId) other = true) :
    meets (withdrawn types target targetId) row = true := by
  have hlabel : ∀ {column : String}, (∃ s, row.get column = .text s) →
      row.label column = other.label column := by
    rintro column ⟨s, hs⟩
    simp [Fields.label, hs, Value.get_of_alikeRows h hs]
  rw [meets_withdrawn] at hother ⊢
  rw [hlabel hrow.type, hlabel hrow.target, hlabel hrow.targetId]
  exact hother

lemma any_alike_withdrawn (hrow : row.IsNotification) (hmem : row ∈ rows) :
    (rows.filter (meets (withdrawn types target targetId))).any (Value.alikeRows row) =
      meets (withdrawn types target targetId) row := by
  rw [Bool.eq_iff_iff, List.any_eq_true]
  constructor
  · rintro ⟨other, hother, halike⟩
    exact meets_withdrawn_of_alike hrow halike (List.mem_filter.1 hother).2
  · intro hmeets
    exact ⟨row, List.mem_filter.2 ⟨hmem, hmeets⟩, Value.alike_self _ hrow.proper⟩

/-- A withdrawal deletes the notifications that it matches, and no others. -/
theorem effect_withdrawn (hrows : ∀ row ∈ rows, row.IsNotification) (orphans : List Value) :
    effect orphans rows (.delete Table.notifications (withdrawn types target targetId)) =
      rows.filter fun row => !meets (withdrawn types target targetId) row :=
  List.filter_congr fun row hrow => by rw [any_alike_withdrawn (hrows row hrow) hrow]

/-- A notification of another kind outlasts a withdrawal. -/
theorem mem_effect_withdrawn {type : NotificationType} (htype : row.get "type" = .text type.word)
    (hother : ∀ t ∈ types, t.word ≠ type.word) (hrow : row ∈ rows) (orphans : List Value) :
    row ∈ effect orphans rows (.delete Table.notifications (withdrawn types target targetId)) := by
  refine List.mem_filter.2 ⟨hrow, ?_⟩
  rw [Bool.not_eq_true', List.any_eq_false]
  intro matched hmatched halike
  obtain ⟨⟨t, ht, hword⟩, -⟩ := meets_withdrawn.1 (List.mem_filter.1 hmatched).2
  have hsame := Value.get_of_alikeRows halike htype
  refine hother t ht ?_
  rw [← hword, Fields.label, hsame, Value.label_text]

/-- A notification as it is stored in its place. -/
def noticeAt (now : Calendar.Moment) (n : Notice) (place : Nat) : Row :=
  identified Table.notifications place (notificationRow now n)

lemma type_noticeAt (now : Calendar.Moment) (n : Notice) (place : Nat) :
    (noticeAt now n place).get "type" = .text n.type.word := rfl

lemma isNotification_noticeAt (now : Calendar.Moment) (r : NotificationRequest) (place : Nat) :
    (noticeAt now r.notice place).IsNotification where
  proper := by
    have hcontext : (Value.ofText? r.contextId).IsProper := by
      cases r.contextId <;> trivial
    refine ⟨?_, ?_⟩
    · change ["user_id", "context_id", "type", "level", "assoc_type", "assoc_id", "title",
        "action_url", "is_read", "created_at", "id"].Nodup
      decide
    · exact ⟨trivial, hcontext, trivial, trivial, trivial, trivial, trivial, trivial, trivial,
        trivial, trivial, trivial⟩
  type := ⟨_, rfl⟩
  target := ⟨_, rfl⟩
  targetId := ⟨_, rfl⟩

/-- A notification is stored behind the others unless its user is an orphan. -/
theorem effect_notice (orphans : List Value) (rows : List Row) (now : Calendar.Moment)
    (r : NotificationRequest) :
    effect orphans rows (.insert Table.notifications (notificationRow now r.notice)) =
      if Value.text r.userId ∈ orphans then rows
      else rows ++ [noticeAt now r.notice rows.length] := by
  have hne : (Table.notifications == Table.stageAssignments) = false := by decide
  have huser : Fields.get (notificationRow now r.notice) "user_id" = .text r.userId := rfl
  have horphan : orphans.any (·.alike (.text r.userId)) = true ↔
      Value.text r.userId ∈ orphans := by
    rw [List.any_eq_true]
    simp only [Value.alike_text_right]
    exact ⟨fun ⟨v, hv, he⟩ => he ▸ hv, fun h => ⟨_, h, rfl⟩⟩
  simp only [effect, refuses, hne, huser, beq_self_eq_true, Bool.false_and, Bool.false_or,
    Bool.true_and, horphan]
  rfl

/-- The kinds of notification that a run sends. -/
def sentTypes : List NotificationType := [.submissionSubmitted, .editorAssignmentRequired]

/-- What a run does to the notifications: it sends some, and withdraws others. -/
def Routes (d : Deed) : Prop := d.call.table = Table.notifications →
  (∃ now n place, d = .notifies now n place ∧ n.type ∈ sentTypes) ∨
    ∃ types target id, d = .withdraws types target id ∧
      ∀ t ∈ types, ∀ sent ∈ sentTypes, t.word ≠ sent.word

/-- A notification of a kind that is sent. -/
def IsSent (row : Row) : Prop := ∃ type ∈ sentTypes, row.get "type" = .text type.word

/-- Of the old notifications some are kept, and behind them are all new ones. -/
def Keeps (old new rows : List Row) : Prop := ∃ kept, kept.Sublist old ∧ rows = kept ++ new

variable {old new : List Row}

lemma keeps_append (old new : List Row) : Keeps old new (old ++ new) :=
  ⟨old, List.Sublist.refl old, rfl⟩

/-- An insert by a run is of a notification that is sent. -/
lemma Routes.notice {stored : Option Row} (h : Routes ⟨.insert Table.notifications row, stored⟩) :
    ∃ now n, row = notificationRow now n ∧ n.type ∈ sentTypes := by
  rcases h rfl with ⟨now, n, place, hdeed, htype⟩ | ⟨types, target, id, hdeed, -⟩
  · have hcall := congrArg Deed.call hdeed
    exact ⟨now, n, (Call.insert.inj hcall).2, htype⟩
  · have hcall := congrArg Deed.call hdeed
    cases hcall

lemma Routes.withdrawal {filters : List Filter} {stored : Option Row}
    (h : Routes ⟨.delete Table.notifications filters, stored⟩) : ∃ types target id,
      filters = withdrawn types target id ∧
        ∀ t ∈ types, ∀ sent ∈ sentTypes, t.word ≠ sent.word := by
  rcases h rfl with ⟨now, n, place, hdeed, -⟩ | ⟨types, target, id, hdeed, htypes⟩
  · have hcall := congrArg Deed.call hdeed
    cases hcall
  · have hcall := congrArg Deed.call hdeed
    exact ⟨types, target, id, (Call.delete.inj hcall).2, htypes⟩

/-- A withdrawal of kinds that are not sent keeps what was sent. -/
lemma keeps_withdrawn (htypes : ∀ t ∈ types, ∀ sent ∈ sentTypes, t.word ≠ sent.word)
    (hnew : ∀ row ∈ new, IsSent row) (orphans : List Value) :
    Keeps old new (effect orphans (old ++ new)
      (.delete Table.notifications (withdrawn types target targetId))) := by
  have hall : ∀ row ∈ new, row ∈ effect orphans (old ++ new)
      (.delete Table.notifications (withdrawn types target targetId)) := by
    intro row hrow
    obtain ⟨type, htype, hword⟩ := hnew row hrow
    exact mem_effect_withdrawn hword (fun t ht => htypes t ht type htype)
      (List.mem_append_right old hrow) _
  rw [effect] at hall ⊢
  have hlast := List.filter_eq_self.2 fun row hrow => (List.mem_filter.1 (hall row hrow)).2
  rw [List.filter_append, hlast]
  exact ⟨_, List.filter_sublist, rfl⟩

/-- What one query of a run does to the notifications: some of the old ones are kept, and all new
ones, behind which there can be one more. -/
lemma notices_step {db : Database} (hdb : db.Plain) {c : Call} (hc : c.IsOfIntake)
    (hds : ∀ d ∈ db.deeds c, Routes d) (hrows : db.rows Table.notifications = old ++ new)
    (hnew : ∀ row ∈ new, IsSent row) :
    Keeps old (new ++ (db.deeds c).filterMap (Deed.storedIn? Table.notifications))
      ((db.perform c).2.rows Table.notifications) ∧
    ∀ row ∈ (db.deeds c).filterMap (Deed.storedIn? Table.notifications), IsSent row := by
  have hperform := hdb.rows_perform hc.isNamed Table.notifications
  have hnone : (db.deeds c).filterMap (Deed.storedIn? Table.notifications) = [] →
      ∀ row ∈ (db.deeds c).filterMap (Deed.storedIn? Table.notifications), IsSent row := by
    intro hnone row hrow
    rw [hnone] at hrow
    cases hrow
  rw [hrows] at hperform
  by_cases htable : Table.notifications = c.table
  · rw [if_pos htable] at hperform
    rw [hperform]
    cases c with
    | select t filters order =>
      refine ⟨?_, hnone rfl⟩
      simpa [deeds, effect] using keeps_append old new
    | insert t row =>
      obtain rfl : Table.notifications = t := htable
      rcases insert_cases hdb hc.isNamed with ⟨hrefused, -, hd⟩ | ⟨hfree, -, hd⟩
      · rw [hrows] at hrefused
        refine ⟨?_, hnone (by simp [hd, Deed.storedIn?])⟩
        simpa [hd, effect, hrefused, Deed.storedIn?] using keeps_append old new
      · rw [hrows] at hfree
        rw [hd] at hds ⊢
        obtain ⟨now, n, rfl, htype⟩ := (hds _ List.mem_cons_self).notice
        refine ⟨?_, fun row hrow => ?_⟩
        · rw [effect, hfree, if_neg Bool.false_ne_true, List.append_assoc, hrows]
          exact keeps_append old _
        · obtain rfl : row = noticeAt now n _ := List.mem_singleton.1 hrow
          exact ⟨n.type, htype, type_noticeAt now n _⟩
    | update t patch filters => exact absurd (htable.trans hc.1) (by decide)
    | delete t filters =>
      obtain rfl : Table.notifications = t := htable
      obtain ⟨types, target, id, rfl, htypes⟩ := (hds _ List.mem_cons_self).withdrawal
      have hstored : (db.deeds (.delete Table.notifications (withdrawn types target id))).filterMap
          (Deed.storedIn? Table.notifications) = [] := by
        simp [deeds, Deed.storedIn?, Call.table, storedBy]
      refine ⟨?_, hnone hstored⟩
      rw [hstored, List.append_nil]
      exact keeps_withdrawn htypes hnew db.orphans
  · rw [if_neg htable] at hperform
    have hstored : (db.deeds c).filterMap (Deed.storedIn? Table.notifications) = [] := by
      cases c with
      | select t filters order => rfl
      | _ => simp [deeds, Deed.storedIn?, Ne.symm htable]
    rw [hperform, hstored, List.append_nil]
    exact ⟨keeps_append old new, fun row hrow => absurd hrow List.not_mem_nil⟩

/-- Of the old notifications some are kept, and of the new ones all, in the order in which they came
in. -/
theorem notices_eq {db db' : Database} {ds : List Deed} (h : Leads db ds db') (hdb : db.Plain)
    (hds : ∀ d ∈ ds, Routes d) (hrows : db.rows Table.notifications = old ++ new)
    (hnew : ∀ row ∈ new, IsSent row) :
    Keeps old (new ++ ds.filterMap (Deed.storedIn? Table.notifications))
      (db'.rows Table.notifications) := by
  induction h generalizing old new with
  | refl db => simpa [hrows] using keeps_append old new
  | failed _ ih => exact ih (hdb.note _) hds hrows hnew
  | step hc _ ih =>
    obtain ⟨⟨kept, hkept, heq⟩, hsent⟩ := notices_step hdb hc
      (fun d hd => hds d (List.mem_append_left _ hd)) hrows hnew
    obtain ⟨last, hlast, hend⟩ := ih ((hdb.later_perform hc).plain hdb)
      (fun d hd => hds d (List.mem_append_right _ hd)) heq
      fun row hrow => (List.mem_append.1 hrow).elim (hnew row) (hsent row)
    refine ⟨last, hlast.trans hkept, ?_⟩
    rw [hend, List.filterMap_append, List.append_assoc]

end Store
end EditorialDesk
