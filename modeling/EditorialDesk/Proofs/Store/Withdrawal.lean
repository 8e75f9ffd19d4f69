import EditorialDesk.Proofs.Database.Lookup
import EditorialDesk.Proofs.Intake.Enrollment
import EditorialDesk.Proofs.Store.Scope

/-!
# What a withdrawal takes away

A withdrawal takes away the notifications about its target that are of one of its types,
and counts them. So one withdrawal after another is one of both lists of types, in either
order, the same one again finds nothing, and a notification whose type is not asked for can
be sent before a withdrawal or after it.
-/
namespace EditorialDesk

open Database

instance (types : List NotificationType) (target : TargetType) (targetId : String) :
    DecidablePred (Fields.IsNoticeOf types target targetId) :=
  fun _ => inferInstanceAs (Decidable (_ ∧ _))

/-- A row that tells whether it is of some types: a notification, or at least a row of another
type. -/
def Fields.IsTyped (types : List NotificationType) (row : Row) : Prop :=
  row.IsNotification ∨ ∃ type ∉ types, row.get "type" = .text type.word

/-- Notifications can be put and taken away, and those that are there have texts for what tells
which they are. -/
structure Database.HasNotices (db : Database) : Prop where
  undisturbed : db.Undisturbed Table.notifications
  notices : ∀ row ∈ db.rows Table.notifications, row.IsNotification

/-- A notification is stored if its user is one who exists. -/
def Notice.IsStorable (n : Notice) (db : Database) : Prop :=
  n.userId.isName = true ∧ db.orphans.any (·.alike n.userId) = false

lemma NotificationType.word_injective : Function.Injective NotificationType.word := by
  intro a b h
  have hread := congrArg NotificationType.ofWord? h
  rwa [ofWord?_word, ofWord?_word, Option.some.injEq] at hread

namespace Store

variable {types as bs : List NotificationType} {target : TargetType} {targetId : Value}
variable {db mid db' : Database} {rows : List Row} {row : Row} {n m : Nat}

/-- The rows that a withdrawal leaves. -/
def remaining (types : List NotificationType) (target : TargetType) (targetId : Value)
    (rows : List Row) : List Row :=
  rows.filter fun row => ¬row.IsNoticeOf types target targetId.label

lemma isNoticeOf_append : row.IsNoticeOf (as ++ bs) target targetId.label ↔
    row.IsNoticeOf as target targetId.label ∨ row.IsNoticeOf bs target targetId.label := by
  simp only [Fields.IsNoticeOf, List.mem_append, or_and_right, exists_or]

lemma remaining_append (rows : List Row) : remaining (as ++ bs) target targetId rows =
    remaining bs target targetId (remaining as target targetId rows) := by
  simp only [remaining, List.filter_filter, isNoticeOf_append, not_or]
  exact List.filter_congr fun row _ => by
    simp only [Bool.decide_and, Bool.and_comm]

lemma remaining_comm (rows : List Row) :
    remaining (as ++ bs) target targetId rows = remaining (bs ++ as) target targetId rows := by
  rw [remaining_append, remaining_append]
  exact List.filter_comm _ _ _

lemma remaining_self (rows : List Row) :
    remaining (types ++ types) target targetId rows = remaining types target targetId rows := by
  simp only [remaining, isNoticeOf_append, or_self]

lemma not_isNoticeOf_of_type {type : NotificationType} (htype : row.get "type" = .text type.word)
    (hother : type ∉ types) : ¬row.IsNoticeOf types target targetId.label := by
  rintro ⟨⟨t, ht, hword⟩, -⟩
  rw [htype, Value.text.injEq] at hword
  exact hother (NotificationType.word_injective hword ▸ ht)

/-- A notification of another type stays wherever it stands. -/
lemma remaining_concat {type : NotificationType} (htype : row.get "type" = .text type.word)
    (hother : type ∉ types) : remaining types target targetId (rows ++ [row]) =
      remaining types target targetId rows ++ [row] := by
  have hrow : ¬row.IsNoticeOf types target targetId.label := not_isNoticeOf_of_type htype hother
  rw [remaining, List.filter_append, List.filter_cons_of_pos (by simpa using hrow)]
  rfl

lemma isNoticeOf_iff_meets (hrow : row.IsTyped types) :
    row.IsNoticeOf types target targetId.label ↔
      meets (withdrawn types target targetId) row = true := by
  have hlabel : ∀ {column s : String}, (∃ w, row.get column = .text w) →
      (row.label column = s ↔ row.get column = .text s) := by
    rintro column s ⟨w, hw⟩
    simp [Fields.label, hw]
  rw [meets_withdrawn]
  rcases hrow with hrow | ⟨type, hother, htype⟩
  · rw [hlabel hrow.target, hlabel hrow.targetId]
    simp only [hlabel hrow.type, Fields.IsNoticeOf]
  · simp only [not_isNoticeOf_of_type htype hother, hlabel ⟨_, htype⟩, false_iff]
    rintro ⟨⟨t, ht, hword⟩, -⟩
    rw [htype, Value.text.injEq] at hword
    exact hother (NotificationType.word_injective hword ▸ ht)

/-- A withdrawal deletes what is of its types and about its target, though it deletes whatever is
like a row that it matches. -/
lemma effect_eq_remaining (hrows : ∀ row ∈ rows, row.IsTyped types) (orphans : List Value) :
    effect orphans rows (.delete Table.notifications (withdrawn types target targetId)) =
      remaining types target targetId rows := by
  refine List.filter_congr fun row hrow => ?_
  rcases hrows row hrow with hnotice | ⟨type, hother, htype⟩
  · rw [any_alike_withdrawn hnotice hrow]
    simp [isNoticeOf_iff_meets (hrows row hrow)]
  · have hstays : row ∈ effect orphans rows
        (.delete Table.notifications (withdrawn types target targetId)) :=
      mem_effect_withdrawn htype
        (fun t ht heq => hother (NotificationType.word_injective heq ▸ ht)) hrow orphans
    rw [(List.mem_filter.1 hstays).2]
    simpa using not_isNoticeOf_of_type htype hother

/-- What a withdrawal from a first state leaves in a second, and what it counts. -/
structure Withdraws (types : List NotificationType) (target : TargetType) (targetId : Value)
    (db : Database) (n : Nat) (db' : Database) : Prop where
  rows : db'.rows Table.notifications =
    remaining types target targetId (db.rows Table.notifications)
  count : n + (db'.rows Table.notifications).length = (db.rows Table.notifications).length
  others : Spares (· ≠ Table.notifications) db db'

lemma Withdraws.hasNotices (h : Withdraws types target targetId db n db') (hdb : db.HasNotices) :
    db'.HasNotices where
  undisturbed := h.others.undisturbed hdb.undisturbed
  notices row hrow := hdb.notices row (List.mem_filter.1 (h.rows ▸ hrow)).1

/-- One withdrawal after another leaves and counts what one of both lists of types does. -/
lemma Withdraws.trans (hmid : Withdraws as target targetId db n mid)
    (h : Withdraws bs target targetId mid m db') :
    Withdraws (as ++ bs) target targetId db (n + m) db' where
  rows := by rw [h.rows, hmid.rows, remaining_append]
  count := by
    have hfirst := hmid.count
    have hsecond := h.count
    omega
  others := hmid.others.trans h.others

/-- What withdrawals leave and count depends on what they take away only. -/
lemma Withdraws.unique {db'' : Database} (h : Withdraws as target targetId db n db')
    (h' : Withdraws bs target targetId db m db'')
    (hsame : ∀ rows, remaining as target targetId rows = remaining bs target targetId rows) :
    n = m ∧ Spares (fun _ => True) db' db'' := by
  have hrows : db'.rows Table.notifications = db''.rows Table.notifications := by
    rw [h.rows, h'.rows, hsame]
  have hcount := h.count
  have hcount' := h'.count
  rw [hrows] at hcount
  refine ⟨by omega, (h.others.symm.trans h'.others).frame, fun table _ => ?_⟩
  by_cases ht : table = Table.notifications
  · rw [ht, hrows]
  · rw [h.others.rows table ht, h'.others.rows table ht]

lemma Withdraws.of_spares (h : Withdraws types target targetId mid n db')
    (hmid : Spares (fun _ => True) db mid) : Withdraws types target targetId db n db' where
  rows := by rw [h.rows, hmid.rows _ trivial]
  count := by rw [h.count, hmid.rows _ trivial]
  others := (hmid.mono fun _ _ => trivial).trans h.others

/-- A withdrawal comes to an end, and takes away what it is to. -/
theorem run_withdraw (h : db.Undisturbed Table.notifications) (types : List NotificationType)
    (hrows : ∀ row ∈ db.rows Table.notifications, row.IsTyped types) (target : TargetType)
    (targetId : Value) : ∃ n db',
      Session.run (withdraw types target targetId) db = (.ok n, db') ∧
        Withdraws types target targetId db n db' := by
  cases types with
  | nil =>
    have hall : remaining [] target targetId (db.rows Table.notifications) =
        db.rows Table.notifications :=
      List.filter_eq_self.2 fun row _ => by simp [Fields.IsNoticeOf]
    exact ⟨0, db, rfl, hall.symm, Nat.zero_add _, .refl _ db⟩
  | cons type rest =>
    have hdelete := h.perform_delete (withdrawn (type :: rest) target targetId)
    have hspares : Spares (· ≠ Table.notifications) db
        (db.perform (.delete Table.notifications (withdrawn (type :: rest) target targetId))).2 :=
      h.perform_spares (.inr fun hne => hne rfl)
    rw [hdelete, effect_eq_remaining hrows] at hspares
    rw [effect_eq_remaining hrows] at hdelete
    have hrun : Session.run (Session.execute (.delete Table.notifications
        (withdrawn (type :: rest) target targetId)) >>= fun rows => pure rows.length) db = _ :=
      Session.run_bind_eq_ok.2 ⟨_, _, Session.run_execute_eq_ok.2 hdelete, rfl⟩
    refine ⟨_, _, hrun, ?_, ?_, hspares⟩
    · rw [rows_setRows, if_pos rfl]
    · have hmatched : (db.rows Table.notifications).filter
          (meets (withdrawn (type :: rest) target targetId)) =
            (db.rows Table.notifications).filter
              (Fields.IsNoticeOf (type :: rest) target targetId.label ·) :=
        List.filter_congr fun row hrow => by simp [isNoticeOf_iff_meets (hrows row hrow)]
      rw [rows_setRows, if_pos rfl, hmatched, remaining]
      simp only [decide_not]
      exact (List.length_eq_length_filter_add _).symm

lemma violation?_notice (db : Database) (now : Calendar.Moment) (n : Notice) :
    db.violation? Table.notifications (notificationRow now n) =
      if !n.userId.isName then .error .badType
      else .ok (if db.orphans.any (·.alike n.userId) then some unknownUser else none) := by
  have hne : Table.notifications ≠ Table.stageAssignments := by decide
  have huser : Fields.get (notificationRow now n) "user_id" = n.userId := rfl
  have hseats : ¬(db.unique && Table.notifications == Table.stageAssignments) = true := by
    simp [hne]
  rw [violation?, if_neg hseats, if_pos (beq_self_eq_true _)]
  simp only [huser]
  rfl

/-- What is told of a notification once it is stored. -/
def receipt (db : Database) (stored : Row) : Except Fault (Option Value) :=
  match db.reply Table.notifications stored with
  | .ok answer => firstPart answer
  | .error f => .error (.ofCall f)

/-- What is told does not depend on the row, or it is the row. -/
lemma receipt_cases (db : Database) : (∀ stored other, receipt db stored = receipt db other) ∨
    ∀ stored, receipt db stored = .ok (some (.object stored)) := by
  unfold receipt
  rcases db.reply_cases Table.notifications with h | ⟨v, h⟩ | h
  · exact .inl fun _ _ => by simp only [h]
  · exact .inl fun _ _ => by simp only [h]
  · refine .inr fun _ => ?_
    simp only [h]
    rfl

variable {now : Calendar.Moment} {notice : Notice}

/-- A notification whose user exists is stored behind the others. -/
lemma run_notify_of_storable (h : db.Undisturbed Table.notifications)
    (hn : notice.IsStorable db) :
    Session.run (notify now notice) db =
      (receipt db (noticeAt now notice (db.rows Table.notifications).length),
        db.inserted Table.notifications (notificationRow now notice)) := by
  have hinsert := h.perform_insert (notificationRow now notice)
  rw [violation?_notice, hn.1, hn.2] at hinsert
  simp only [Bool.not_true, Bool.false_eq_true, if_false] at hinsert
  rw [notify, Session.run_attempt, hinsert, receipt, noticeAt]
  rcases db.reply_cases Table.notifications with hreply | ⟨v, hreply⟩ | hreply <;>
    simp only [hreply, Session.run_ofExcept]
  rfl

/-- Any other notification leaves all tables as they are. -/
lemma run_notify_of_not_storable (h : db.Undisturbed Table.notifications)
    (now : Calendar.Moment) (hn : ¬notice.IsStorable db) : ∃ db',
    Session.run (notify now notice) db =
      (if notice.userId.isName then .ok none else .error .badType, db') ∧
        Spares (fun _ => True) db db' := by
  have hinsert := h.perform_insert (notificationRow now notice)
  rw [violation?_notice] at hinsert
  rw [notify, Session.run_attempt, hinsert]
  by_cases hname : notice.userId.isName = true
  · have horphan : db.orphans.any (·.alike notice.userId) = true := by
      simpa [Notice.IsStorable, hname] using hn
    simp only [hname, horphan, Bool.not_true, Bool.false_eq_true, if_false, if_true,
      isOrphanUser_unknownUser]
    exact ⟨_, rfl, spares_note _ db _⟩
  · simp only [hname, Bool.not_false, if_true, Bool.false_eq_true, if_false]
    exact ⟨_, rfl, .refl _ db⟩

/-- A notification can be sent before a withdrawal or after it: as many are withdrawn, the same are
left, and the notification stands behind them with the identity of its place, or nowhere. -/
def NotifyCommutes (clock : Reading Calendar.Moment) (types : List NotificationType)
    (target : TargetType) (targetId : Value) (now : Calendar.Moment) (notice : Notice)
    (db : Database) : Prop :=
  ∃ (n : Nat) (left sent sentLeft leftSent : Database) (r r' : Except Fault (Option Value)),
    Session.run (session clock (.withdraw types target targetId)) db = (.ok n, left) ∧
    Session.run (session (.shows now) (.notify notice)) db = (r, sent) ∧
    Session.run (session clock (.withdraw types target targetId)) sent = (.ok n, sentLeft) ∧
    Session.run (session (.shows now) (.notify notice)) left = (r', leftSent) ∧
    Spares (· ≠ Table.notifications) sentLeft leftSent ∧
    (notice.IsStorable db → ∃ place place',
      sentLeft.rows Table.notifications =
        left.rows Table.notifications ++ [noticeAt now notice place] ∧
      leftSent.rows Table.notifications =
        left.rows Table.notifications ++ [noticeAt now notice place'] ∧
      (r = r' ∨ r = .ok (some (.object (noticeAt now notice place))) ∧
        r' = .ok (some (.object (noticeAt now notice place'))))) ∧
    (¬notice.IsStorable db → r = r' ∧ Spares (fun _ => True) left sentLeft ∧
      Spares (fun _ => True) left leftSent)

lemma Withdraws.isStorable_iff (h : Withdraws types target targetId db n db') :
    notice.IsStorable db' ↔ notice.IsStorable db := by
  rw [← h.others.frame]
  exact Iff.rfl

/-- A notification that is stored stands behind what a withdrawal leaves. -/
lemma notifyCommutes_of_storable (h : db.HasNotices) (clock : Reading Calendar.Moment)
    (target : TargetType) (targetId : Value) (now : Calendar.Moment)
    (hother : notice.type ∉ types) (hn : notice.IsStorable db) :
    NotifyCommutes clock types target targetId now notice db := by
  obtain ⟨n, left, hleft, hwithdraws⟩ := run_withdraw h.undisturbed types
    (fun row hrow => .inl (h.notices row hrow)) target targetId
  have hspares := spares_inserted db Table.notifications (notificationRow now notice)
  have hrows : (db.inserted Table.notifications (notificationRow now notice)).rows
      Table.notifications = db.rows Table.notifications ++
        [noticeAt now notice (db.rows Table.notifications).length] := rows_inserted db _ _
  have htyped : ∀ row ∈ (db.inserted Table.notifications (notificationRow now notice)).rows
      Table.notifications, row.IsTyped types := by
    intro row hrow
    rw [hrows, List.mem_append, List.mem_singleton] at hrow
    rcases hrow with hrow | rfl
    · exact .inl (h.notices row hrow)
    · exact .inr ⟨_, hother, type_noticeAt _ _ _⟩
  obtain ⟨m, sentLeft, hrun, hafter⟩ :=
    run_withdraw (hspares.undisturbed h.undisturbed) types htyped target targetId
  have hkept : sentLeft.rows Table.notifications = left.rows Table.notifications ++
      [noticeAt now notice (db.rows Table.notifications).length] := by
    rw [hafter.rows, hrows, remaining_concat (type_noticeAt _ _ _) hother, hwithdraws.rows]
  have hcount : m = n := by
    have hfirst := hwithdraws.count
    have hsecond := hafter.count
    rw [hkept, hrows, List.length_append, List.length_append] at hsecond
    omega
  have hstored : (left.inserted Table.notifications (notificationRow now notice)).rows
      Table.notifications = left.rows Table.notifications ++
        [noticeAt now notice (left.rows Table.notifications).length] := rows_inserted left _ _
  have hreceipt : receipt left = receipt db := by
    rw [← hwithdraws.others.frame]
    rfl
  refine ⟨n, left, _, sentLeft, _, _, _, hleft, run_notify_of_storable h.undisturbed hn,
    hcount ▸ hrun, run_notify_of_storable (hwithdraws.others.undisturbed h.undisturbed)
      (hwithdraws.isStorable_iff.2 hn), ?_, fun _ => ⟨_, _, hkept, hstored, ?_⟩,
    fun hnot => absurd hn hnot⟩
  · exact (hspares.trans hafter.others).symm.trans
      (hwithdraws.others.trans (spares_inserted left _ _))
  · rw [hreceipt]
    exact (receipt_cases db).imp (fun hfixed => hfixed _ _) fun hown => ⟨hown _, hown _⟩

lemma notifyCommutes_of_not_storable (h : db.HasNotices) (clock : Reading Calendar.Moment)
    (types : List NotificationType) (target : TargetType) (targetId : Value)
    (now : Calendar.Moment) (hn : ¬notice.IsStorable db) :
    NotifyCommutes clock types target targetId now notice db := by
  obtain ⟨n, left, hleft, hwithdraws⟩ := run_withdraw h.undisturbed types
    (fun row hrow => .inl (h.notices row hrow)) target targetId
  obtain ⟨sent, hsent, hspares⟩ := run_notify_of_not_storable h.undisturbed now hn
  obtain ⟨leftSent, hleftSent, hspares'⟩ := run_notify_of_not_storable
    (hwithdraws.others.undisturbed h.undisturbed) now (hwithdraws.isStorable_iff.not.2 hn)
  obtain ⟨m, sentLeft, hrun, hafter⟩ := run_withdraw (hspares.undisturbed h.undisturbed) types
    (fun row hrow => .inl (h.notices row (hspares.rows _ trivial ▸ hrow))) target targetId
  obtain ⟨rfl, hboth⟩ := hwithdraws.unique (hafter.of_spares hspares) fun _ => rfl
  exact ⟨n, left, sent, sentLeft, leftSent, _, _, hleft, hsent, hrun, hleftSent,
    (hboth.symm.trans hspares').mono fun _ _ => trivial, fun hyes => absurd hyes hn,
    fun _ => ⟨rfl, hboth, hspares'⟩⟩

/-- Withdrawals compose. A withdrawal takes away what is about its target and of one of its types,
and counts that; once more it finds nothing; and one after another, in either order, they leave and
count what one of both lists of types does. A notification of another type can be sent before or
after. -/
theorem withdraw_composes (h : db.HasNotices) (clock : Reading Calendar.Moment)
    (as bs : List NotificationType) (target : TargetType) (targetId : Value) :
    (∃ (n : Nat) (left again : Database),
      Session.run (session clock (.withdraw as target targetId)) db = (.ok n, left) ∧
      Withdraws as target targetId db n left ∧
      Session.run (session clock (.withdraw as target targetId)) left = (.ok 0, again) ∧
      Spares (fun _ => True) left again) ∧
    (∃ (n m k l : Nat) (left leftBoth right rightBoth joint : Database),
      Session.run (session clock (.withdraw as target targetId)) db = (.ok n, left) ∧
      Session.run (session clock (.withdraw bs target targetId)) left = (.ok m, leftBoth) ∧
      Session.run (session clock (.withdraw bs target targetId)) db = (.ok k, right) ∧
      Session.run (session clock (.withdraw as target targetId)) right = (.ok l, rightBoth) ∧
      Session.run (session clock (.withdraw (as ++ bs) target targetId)) db =
        (.ok (n + m), joint) ∧
      k + l = n + m ∧ Spares (fun _ => True) joint leftBoth ∧
      Spares (fun _ => True) joint rightBoth) ∧
    ∀ now notice, notice.type ∉ as → NotifyCommutes clock as target targetId now notice db := by
  have hwithdraw : ∀ {db : Database}, db.HasNotices → ∀ types, ∃ (n : Nat) (db' : Database),
      Session.run (session clock (.withdraw types target targetId)) db = (.ok n, db') ∧
        Withdraws types target targetId db n db' := fun hdb types =>
    run_withdraw hdb.undisturbed types (fun row hrow => .inl (hdb.notices row hrow)) target targetId
  obtain ⟨n, left, hleft, has⟩ := hwithdraw h as
  obtain ⟨z, again, hagain, has'⟩ := hwithdraw (has.hasNotices h) as
  obtain ⟨m, leftBoth, hleftBoth, hasbs⟩ := hwithdraw (has.hasNotices h) bs
  obtain ⟨k, right, hright, hbs⟩ := hwithdraw h bs
  obtain ⟨l, rightBoth, hrightBoth, hbsas⟩ := hwithdraw (hbs.hasNotices h) as
  obtain ⟨j, joint, hjoint, hboth⟩ := hwithdraw h (as ++ bs)
  obtain ⟨htwice, hstill⟩ := (has.trans has').unique has remaining_self
  obtain ⟨rfl, hleftSame⟩ := hboth.unique (has.trans hasbs) fun _ => rfl
  obtain ⟨hrightCount, hrightSame⟩ := hboth.unique (hbs.trans hbsas) remaining_comm
  obtain rfl : z = 0 := by omega
  refine ⟨⟨n, left, again, hleft, has, hagain, hstill.symm⟩,
    ⟨n, m, k, l, left, leftBoth, right, rightBoth, joint, hleft, hleftBoth, hright, hrightBoth,
      hjoint, hrightCount.symm, hleftSame, hrightSame⟩,
    fun now notice hother => ?_⟩
  by_cases hn : notice.IsStorable db
  · exact notifyCommutes_of_storable h clock target targetId now hother hn
  · exact notifyCommutes_of_not_storable h clock as target targetId now hn

/-- A row that asks for the approval of a submission. -/
def approvalOf (submissionId : String) : Row :=
  [("type", .text "approve_submission"), ("assoc_type", .text "submission"),
    ("assoc_id", .text submissionId)]

/-- A table with the same notification twice and one about another submission, in a database whose
log is out of order. -/
def mailbox : Database :=
  { empty with
    tables := [(Table.notifications, [approvalOf "sub-1", approvalOf "sub-2", approvalOf "sub-1"])]
    unreadable := [(Table.eventLog, .null)]
    scripts := [⟨Table.eventLog, "insert", some 0, .badType⟩] }

lemma isNotification_approvalOf (submissionId : String) :
    (approvalOf submissionId).IsNotification where
  proper := by
    refine ⟨?_, trivial, trivial, trivial, trivial⟩
    change ["type", "assoc_type", "assoc_id"].Nodup
    decide
  type := ⟨_, rfl⟩
  target := ⟨_, rfl⟩
  targetId := ⟨_, rfl⟩

lemma mailbox_hasNotices : mailbox.HasNotices where
  undisturbed := ⟨fun s hs => by rw [List.mem_singleton.1 hs]; decide, rfl⟩
  notices row hrow := by
    change row ∈ [approvalOf "sub-1", approvalOf "sub-2", approvalOf "sub-1"] at hrow
    simp only [List.mem_cons, List.not_mem_nil, or_false] at hrow
    rcases hrow with rfl | rfl | rfl <;> exact isNotification_approvalOf _

/-- A notification that a submission has come in. -/
def arrival : Notice where
  userId := .text "u-1"
  type := .submissionSubmitted
  contextId := .text "ctx-1"
  targetType := .submission
  targetId := .text "sub-1"
  level := .normal

/-- Both copies are withdrawn, though their type is given twice, and then there is nothing left to
withdraw; a notification of another type about the same submission can be sent before or after. -/
theorem mailbox_withdrawals : mailbox.HasNotices ∧
    (∃ left again,
      Session.run (session (.shows Intake.dawn) (.withdraw [.approveSubmission, .approveSubmission]
        .submission (.text "sub-1"))) mailbox = (.ok 2, left) ∧
      left.rows Table.notifications = [approvalOf "sub-2"] ∧
      Session.run (session (.shows Intake.dawn) (.withdraw [.approveSubmission, .approveSubmission]
        .submission (.text "sub-1"))) left = (.ok 0, again)) ∧
    arrival.type ∉ [NotificationType.approveSubmission, .approveSubmission] ∧
    NotifyCommutes (.shows Intake.dawn) [.approveSubmission, .approveSubmission] .submission
      (.text "sub-1") Intake.dawn arrival mailbox := by
  obtain ⟨⟨n, left, again, hleft, hwithdraws, hagain, -⟩, -, hcommutes⟩ :=
    withdraw_composes mailbox_hasNotices (.shows Intake.dawn)
      [.approveSubmission, .approveSubmission] [] .submission (.text "sub-1")
  have hrows : left.rows Table.notifications = [approvalOf "sub-2"] := by
    rw [hwithdraws.rows]
    decide
  have hcount := hwithdraws.count
  have hlength : (mailbox.rows Table.notifications).length = 3 := by decide
  rw [hrows, hlength, List.length_singleton] at hcount
  obtain rfl : n = 2 := by omega
  exact ⟨mailbox_hasNotices, ⟨left, again, hleft, hrows, hagain⟩, by decide,
    hcommutes _ _ (by decide)⟩

end Store
end EditorialDesk
