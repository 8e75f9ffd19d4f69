import EditorialDesk.Proofs.Intake.Enrollment
import EditorialDesk.Proofs.Store.Notices
import EditorialDesk.Proofs.Text.Grammar

/-!
# Exact routing of notifications

Who is notified of a submission, told by the rows of the tables: the only members of the
groups that are open at intake, by ascending identities of the groups, and then the
sub-editors of the section and of each category, as far as they are in a group that is
open at intake. If there is nobody, the managers are asked to assign an editor. After a
run the notifications are the old ones without those that are withdrawn, and one for each
of these users who is no orphan.
-/
namespace EditorialDesk.Intake

open Database Store

/-- The texts with a property, each once and in ascending order. -/
structure IsAscending (P : String → Prop) (xs : List String) : Prop where
  ascending : xs.Pairwise (· < ·)
  mem : ∀ x, x ∈ xs ↔ P x

/-- A group of managers or assistants of the context is open at intake and has one member. -/
def HasSoleMember (db : Database) (s : Submission) (groupId : String) : Prop :=
  ∃ role row userId, db.IsGroup s.contextId groupId role row ∧
    (role = .manager ∨ role = .assistant) ∧ db.IsOpen s.contextId groupId .intake ∧
    db.IsSoleMember groupId userId

/-- A user is bound to a section or a category, and is in a group of sub-editors of the context that
is open at intake. -/
def IsOpenEditor (db : Database) (s : Submission) (type : GroupingType) (id userId : String) :
    Prop :=
  db.IsBound s.contextId type id userId ∧
    ∃ groupId row, db.IsGroup s.contextId groupId .subEditor row ∧ db.IsMember groupId userId ∧
      ∃ grant ∈ db.rows Table.userGroupStages, grant.get "user_group_id" = .text groupId ∧
        grant.get "stage_id" = .int Stage.intake.code

/-- A user is in a group of managers of a context. -/
def IsManager (db : Database) (contextId userId : String) : Prop :=
  ∃ groupId row, db.IsGroup contextId groupId .manager row ∧ db.IsMember groupId userId

/-- Whom a run notifies, in order: single members, then the editors of the section, then those of
the categories. -/
def IsNotifiedList (db : Database) (s : Submission) (notified : List String) : Prop :=
  ∃ groups singles, ∃ editors : GroupingType → String → List String,
    IsAscending (HasSoleMember db s) groups ∧
    List.Forall₂ db.IsSoleMember groups singles ∧
    (∀ type id, IsAscending (IsOpenEditor db s type id) (editors type id)) ∧
    notified = distinct (singles ++ (s.sectionId.toList.flatMap (editors .journalSection) ++
      s.categoryIds.flatMap (editors .category)))

variable {db : Database} {now : Calendar.Moment} {s : Submission} {logs : Bool}

lemma permits_groupAt (h : db.WellFormed) {contextId groupId : String} {role : Role} {row : Row}
    (hrow : db.IsGroup contextId groupId role row) :
    (db.groupAt role row).permits .intake = true ↔
      ∃ grant ∈ db.rows Table.userGroupStages, grant.get "user_group_id" = .text groupId ∧
        grant.get "stage_id" = .int Stage.intake.code := by
  have hstages : (db.groupAt role row).stages = db.stagesOf groupId := by
    rw [groupAt, label_of_get hrow.2.1]
  unfold UserGroup.permits
  rw [hstages, List.contains_iff_mem, stagesOf, h.mem_stagesFor (List.mem_singleton.2 rfl)]
  constructor
  · rintro ⟨grant, hgrant, hgroup, hstage⟩
    obtain ⟨-, -, n, hn⟩ := h.stages grant hgrant
    rw [hn] at hstage
    exact ⟨grant, hgrant, hgroup, by rw [hn, Stage.ofValue?_int hstage]⟩
  · rintro ⟨grant, hgrant, hgroup, hstage⟩
    refine ⟨grant, hgrant, hgroup, ?_⟩
    rw [hstage]
    decide

/-- The groups with single members, and these members. -/
lemma singles_isAscending (h : db.WellFormed) :
    IsAscending (HasSoleMember db s) ((singletonWishes db s).map (·.group.id)) ∧
      List.Forall₂ db.IsSoleMember ((singletonWishes db s).map (·.group.id))
        ((singletonWishes db s).map (·.userId)) := by
  refine ⟨⟨?_, fun groupId => ?_⟩, ?_⟩
  · rw [List.pairwise_map]
    refine (List.pairwise_filterMap.2 ?_)
    refine (h.pairwise_groupsForStage s.contextId .intake).imp fun {g g'} hlt w hw w' hw' => ?_
    rwa [group_of_singletonWish? hw, group_of_singletonWish? hw']
  · rw [List.mem_map]
    constructor
    · rintro ⟨w, hw, rfl⟩
      obtain ⟨groupId, role, row, hrow, hrole, hopen, hsole, hw⟩ := (mem_singletonWishes h).1 hw
      have hid : w.group.id = groupId := by
        rw [hw]
        exact id_groupAt hrow
      rw [hid]
      exact ⟨role, row, w.userId, hrow, hrole, hopen, hsole⟩
    · rintro ⟨role, row, userId, hrow, hrole, hopen, hsole⟩
      exact ⟨wishAt db role row userId,
        (mem_singletonWishes h).2 ⟨groupId, role, row, hrow, hrole, hopen, hsole, rfl⟩,
        id_groupAt hrow⟩
  · rw [List.forall₂_map_left_iff, List.forall₂_map_right_iff, List.forall₂_same]
    intro w hw
    obtain ⟨groupId, role, row, hrow, -, -, hsole, hw⟩ := (mem_singletonWishes h).1 hw
    have hid : w.group.id = groupId := by
      rw [hw]
      exact id_groupAt hrow
    rwa [hid]

/-- The sub-editors of a section or a category who are in a group that is open at intake. -/
def openEditors (db : Database) (s : Submission) (type : GroupingType) (id : String) :
    List String :=
  (db.subEditors ⟨type, .text id⟩ (.text s.contextId)).filter fun userId =>
    (userWishes db s userId).any (·.group.permits .intake)

lemma openEditors_isAscending (h : db.WellFormed) (type : GroupingType) (id : String) :
    IsAscending (IsOpenEditor db s type id) (openEditors db s type id) := by
  refine ⟨(pairwise_users db _ _).filter _, fun userId => ?_⟩
  have hany : (userWishes db s userId).any (·.group.permits .intake) = true ↔
      ∃ groupId row, db.IsGroup s.contextId groupId .subEditor row ∧ db.IsMember groupId userId ∧
        ∃ grant ∈ db.rows Table.userGroupStages, grant.get "user_group_id" = .text groupId ∧
          grant.get "stage_id" = .int Stage.intake.code := by
    rw [List.any_eq_true]
    constructor
    · rintro ⟨w, hw, hpermits⟩
      obtain ⟨g, hg, rfl⟩ := List.mem_map.1 hw
      obtain ⟨hg, hrole⟩ := List.mem_filter.1 hg
      obtain ⟨groupId, role, row, hrow, hmember, rfl⟩ := h.mem_groupsForUser.1 hg
      obtain rfl : role = .subEditor := by simpa [groupAt] using hrole
      exact ⟨groupId, row, hrow, hmember, (permits_groupAt h hrow).1 hpermits⟩
    · rintro ⟨groupId, row, hrow, hmember, hgrant⟩
      refine ⟨_, List.mem_map.2 ⟨db.groupAt .subEditor row, List.mem_filter.2 ⟨?_, rfl⟩, rfl⟩,
        (permits_groupAt h hrow).2 hgrant⟩
      exact h.mem_groupsForUser.2 ⟨groupId, .subEditor, row, hrow, hmember, rfl⟩
  unfold openEditors IsOpenEditor
  rw [List.mem_filter, h.mem_subEditors, hany]

lemma sameFirsts_userWishes (userId : String) :
    SameFirsts (((userWishes db s userId).filter (·.group.permits .intake)).map (·.userId))
      (if (userWishes db s userId).any (·.group.permits .intake) then [userId] else []) := by
  have hsame : ((userWishes db s userId).filter (·.group.permits .intake)).map (·.userId) =
      List.replicate ((userWishes db s userId).filter (·.group.permits .intake)).length userId := by
    rw [List.eq_replicate_iff, List.length_map]
    refine ⟨rfl, fun other hother => ?_⟩
    obtain ⟨w, hw, rfl⟩ := List.mem_map.1 hother
    obtain ⟨g, -, rfl⟩ := List.mem_map.1 (List.mem_filter.1 hw).1
    rfl
  rw [hsame]
  split
  · next hany =>
    obtain ⟨w, hw, hpermits⟩ := List.any_eq_true.1 hany
    have hmem : w ∈ (userWishes db s userId).filter (·.group.permits .intake) :=
      List.mem_filter.2 ⟨hw, hpermits⟩
    obtain ⟨n, hn⟩ := Nat.exists_eq_succ_of_ne_zero (List.length_pos_of_mem hmem).ne'
    rw [hn]
    exact .replicate n userId
  · next hany =>
    have hnone : (userWishes db s userId).filter (·.group.permits .intake) = [] := by
      simpa using hany
    rw [hnone]
    exact .refl []

/-- The wishes for the sub-editors of a section or a category bring in those whose groups are
open. -/
lemma sameFirsts_groupingWishes (type : GroupingType) (id : String) :
    SameFirsts (((groupingWishes db s ⟨type, .text id⟩).filter (·.group.permits .intake)).map
      (·.userId)) (openEditors db s type id) := by
  have hfilter : openEditors db s type id =
      (db.subEditors ⟨type, .text id⟩ (.text s.contextId)).flatMap fun userId =>
        if (userWishes db s userId).any (·.group.permits .intake) then [userId] else [] := by
    unfold openEditors
    induction db.subEditors ⟨type, .text id⟩ (.text s.contextId) with
    | nil => rfl
    | cons userId rest ih =>
      rw [List.filter_cons, List.flatMap_cons, ← ih]
      split <;> rfl
  rw [hfilter, groupingWishes, List.filter_flatMap, List.map_flatMap]
  exact .flatMap fun userId _ => sameFirsts_userWishes userId

lemma openEditors_empty (h : db.WellFormed) (type : GroupingType) :
    openEditors db s type "" = [] := by
  rw [List.eq_nil_iff_forall_not_mem]
  intro userId huser
  obtain ⟨⟨row, hrow, -, -, hassoc, -⟩, -⟩ :=
    ((openEditors_isAscending h type "").mem userId).1 huser
  obtain ⟨-, ⟨name, hname, hne⟩, -⟩ := h.subEditors row hrow
  rw [hassoc] at hname
  exact hne (Value.text.inj hname).symm

/-- The list of a run is that of single members and editors. -/
theorem notifiedUsers_isNotifiedList (h : db.WellFormed) (s : Submission) :
    IsNotifiedList db s (notifiedUsers db s) := by
  obtain ⟨hgroups, hsingles⟩ := singles_isAscending (s := s) h
  refine ⟨_, _, openEditors db s, hgroups, hsingles, openEditors_isAscending h, ?_⟩
  have hsection : (groupings s).flatMap (fun grouping =>
      ((groupingWishes db s grouping).filter (·.group.permits .intake)).map (·.userId)) =
    s.sectionId.toList.flatMap (fun id => if id = "" then [] else
      ((groupingWishes db s ⟨.journalSection, .text id⟩).filter (·.group.permits .intake)).map
        (·.userId)) ++
    s.categoryIds.flatMap fun id =>
      ((groupingWishes db s ⟨.category, .text id⟩).filter (·.group.permits .intake)).map
        (·.userId) := by
    unfold groupings
    rw [List.flatMap_append, List.flatMap_map]
    cases s.sectionId with
    | none => rfl
    | some id => by_cases hid : id = "" <;> simp [hid]
  have hall : SameFirsts (((subEditorWishes db s).filter (·.group.permits .intake)).map (·.userId))
      (s.sectionId.toList.flatMap (openEditors db s .journalSection) ++
        s.categoryIds.flatMap (openEditors db s .category)) := by
    refine (SameFirsts.distinctOn (eq_of_key_eq h) _ _).trans ?_
    rw [List.filter_flatMap, List.map_flatMap, hsection]
    refine .append (.flatMap fun id _ => ?_) (.flatMap fun id _ => ?_)
    · split
      · next hid =>
        rw [hid, openEditors_empty h]
        exact .refl []
      · exact sameFirsts_groupingWishes .journalSection id
    · exact sameFirsts_groupingWishes .category id
  exact hall _

/-- The requests of a run that notifies some users, or else managers. -/
def requestsFor (s : Submission) (notified managers : List String) : List NotificationRequest :=
  if notified.isEmpty then managers.map (requestTo s .editorAssignmentRequired .task)
  else notified.map (requestTo s .submissionSubmitted .normal)

/-- What is stored on requests behind `n` notifications: one for each user who is no orphan. -/
def storedNotices (now : Calendar.Moment) (orphans : List Value) (n : Nat)
    (requests : List NotificationRequest) : List Row :=
  (requests.filter fun r => Value.text r.userId ∉ orphans).mapIdx fun i r =>
    noticeAt now r.notice (n + i)

/-- A notification is of one of some kinds and about a submission. -/
def isAbout (s : Submission) (types : List NotificationType) (row : Row) : Bool :=
  types.any (fun type => row.get "type" == .text type.word) &&
    row.get "assoc_type" == .text TargetType.submission.word && row.get "assoc_id" == .text s.id

variable {rows : List Row} {types : List NotificationType} {orphans : List Value}

lemma isAbout_append (s : Submission) (types more : List NotificationType) (row : Row) :
    isAbout s (types ++ more) row = (isAbout s types row || isAbout s more row) := by
  unfold isAbout
  rw [List.any_append, Bool.and_assoc, Bool.and_assoc, Bool.and_assoc, Bool.and_or_distrib_right]

/-- Where kinds and targets are texts, what is withdrawn is told by them. -/
lemma meets_withdrawn_eq {row : Row} (hrow : row.IsNotification) :
    meets (withdrawn types .submission (.text s.id)) row = isAbout s types row := by
  obtain ⟨word, hword⟩ := hrow.type
  obtain ⟨target, htarget⟩ := hrow.target
  obtain ⟨id, hid⟩ := hrow.targetId
  rw [Bool.eq_iff_iff, meets_withdrawn, label_of_get hword, label_of_get htarget,
    label_of_get hid, Value.label_text]
  simp [isAbout, hword, htarget, hid, and_assoc]

lemma effect_withdraws (hrows : ∀ row ∈ rows, row.IsNotification) :
    effect orphans rows (Deed.withdraws types .submission (.text s.id)).call =
      rows.filter fun row => !isAbout s types row := by
  unfold Deed.withdraws
  rw [effect_withdrawn hrows]
  exact List.filter_congr fun row hrow => by rw [meets_withdrawn_eq (hrows row hrow)]

lemma replay_of_ne {table : String} {ds : List Deed} (h : ∀ d ∈ ds, table ≠ d.call.table) :
    replay orphans table rows ds = rows := by
  induction ds with
  | nil => rfl
  | cons d rest ih =>
    rw [replay, List.foldl_cons, if_neg (h d List.mem_cons_self)]
    exact ih fun e he => h e (List.mem_cons_of_mem d he)

/-- Trials write no notifications. -/
lemma table_ne_of_mem_deeds {x : Trial} {d : Deed} (hd : d ∈ x.deeds now logs s) :
    Table.notifications ≠ d.call.table := by
  unfold Trial.deeds at hd
  rcases List.mem_cons.1 hd with rfl | hd
  · exact show Table.notifications ≠ Table.stageAssignments by decide
  · split at hd
    · rcases List.mem_pair.1 hd with rfl | rfl
      · exact show Table.notifications ≠ Table.eventLog by decide
      · exact show Table.notifications ≠ Table.submissions by decide
    · cases hd

lemma replay_trials (ts : List Trial) :
    replay orphans Table.notifications rows (ts.flatMap (·.deeds now logs s)) = rows := by
  refine replay_of_ne fun d hd => ?_
  obtain ⟨x, -, hd⟩ := List.mem_flatMap.1 hd
  exact table_ne_of_mem_deeds hd

/-- Whoever is no orphan has a notification stored, in the order of the requests. -/
lemma replay_sent {type : NotificationType} {level : NotificationLevel} {users : List String}
    {sent : List Deed} (h : List.Forall₂ (Delivers now db s type level) users sent) :
    replay orphans Table.notifications rows sent =
      rows ++ storedNotices now orphans rows.length (users.map (requestTo s type level)) := by
  induction h generalizing rows with
  | nil => simp [replay, storedNotices]
  | @cons userId d users sent hd _ ih =>
    obtain ⟨place, rfl, -⟩ := hd
    have heffect := effect_notice orphans rows now (requestTo s type level userId)
    have huser : (requestTo s type level userId).userId = userId := rfl
    rw [huser] at heffect
    unfold replay at ih ⊢
    rw [List.foldl_cons]
    change List.foldl _ (effect orphans rows (.insert Table.notifications
      (notificationRow now (requestTo s type level userId).notice))) sent = _
    rw [heffect, ih]
    unfold storedNotices
    rw [List.map_cons, List.filter_cons, huser]
    by_cases horphan : Value.text userId ∈ orphans
    · simp [horphan]
    · simp [horphan, List.mapIdx_cons, Nat.add_assoc, Nat.add_comm 1]

/-- What is stored on request is withdrawn by no run. -/
lemma isAbout_storedNotices {requests : List NotificationRequest} {n : Nat}
    (h : ∀ r ∈ requests, ∀ type ∈ types, type.word ≠ r.type.word) :
    ∀ row ∈ storedNotices now orphans n requests, isAbout s types row = false := by
  intro row hrow
  obtain ⟨i, hi, rfl⟩ := List.mem_mapIdx.1 hrow
  have hmem := (List.mem_filter.1 (List.getElem_mem hi)).1
  have htype : ∀ r ∈ requests, ∀ place, isAbout s types (noticeAt now r.notice place) = false := by
    intro r hr place
    have hnone : types.any (fun type => (noticeAt now r.notice place).get "type" ==
        .text type.word) = false := by
      rw [List.any_eq_false]
      intro type ht
      rw [type_noticeAt]
      exact fun heq => h r hr type ht (Value.text.inj (beq_iff_eq.1 heq)).symm
    simp [isAbout, hnone]
  exact htype _ hmem _

lemma isNotification_storedNotices (now : Calendar.Moment) (orphans : List Value) (n : Nat)
    (requests : List NotificationRequest) :
    ∀ row ∈ storedNotices now orphans n requests, row.IsNotification := by
  intro row hrow
  obtain ⟨i, hi, rfl⟩ := List.mem_mapIdx.1 hrow
  exact isNotification_noticeAt now _ _

lemma Account.asks_no_approval {base : Database} {o : Outcome} {ds : List Deed} {u : Database}
    (a : Account now base logs s o ds u) : ∀ r ∈ o.notifications,
      ∀ type ∈ [NotificationType.approveSubmission], type.word ≠ r.type.word := by
  intro r hr type htype
  rw [a.notifications] at hr
  obtain ⟨userId, -, rfl⟩ := List.mem_map.1 hr
  obtain rfl := List.mem_singleton.1 htype
  change NotificationType.approveSubmission.word ≠ (sentType base s).word
  unfold sentType
  split
  · decide
  · decide

/-- What becomes of the notifications in a run. -/
theorem Account.replay_notifications {base : Database} {o : Outcome} {ds : List Deed}
    {u : Database} (a : Account now base logs s o ds u)
    (hrows : ∀ row ∈ rows, row.IsNotification) :
    replay orphans Table.notifications rows ds =
      rows.filter (fun row => !isAbout s (NotificationType.pendingDecisions ++ [.approveSubmission])
        row) ++
      storedNotices now orphans
        (rows.filter fun row => !isAbout s NotificationType.pendingDecisions row).length
        o.notifications := by
  have hkept : ∀ row ∈ rows.filter fun row => !isAbout s NotificationType.pendingDecisions row,
      row.IsNotification := fun row hrow => hrows row (List.mem_filter.1 hrow).1
  have hstored := isNotification_storedNotices now orphans
    (rows.filter fun row => !isAbout s NotificationType.pendingDecisions row).length
    o.notifications
  rw [a.deeds, replay_append, replay_trials, replay, List.foldl_cons, ← replay]
  change replay orphans Table.notifications (effect orphans rows
    (Deed.withdraws NotificationType.pendingDecisions .submission (.text s.id)).call) _ = _
  rw [effect_withdraws hrows, replay_append, replay_sent a.sent_eq, ← a.notifications]
  change effect orphans _ (Deed.withdraws [.approveSubmission] .submission (.text s.id)).call = _
  rw [effect_withdraws fun row hrow => (List.mem_append.1 hrow).elim (hkept row) (hstored row),
    List.filter_append, List.filter_filter]
  congr 1
  · refine List.filter_congr fun row _ => ?_
    rw [isAbout_append, Bool.not_or, Bool.and_comm]
  · refine List.filter_eq_self.2 fun row hrow => ?_
    rw [isAbout_storedNotices a.asks_no_approval row hrow]
    rfl

/-- A run on a well-formed database ends. It notifies just whom it has to, in order, and leaves the
notifications that are not withdrawn, followed by one for each of these users who is no orphan. -/
theorem routing_exact (h : db.WellFormed)
    (hnotices : ∀ row ∈ db.rows Table.notifications, row.IsNotification)
    (hnow : now.offset = some .utc) (logs : Bool) (s : Submission) (submitter : Option String) :
    ∃ o db' notified managers,
      (sessionOf (.shows now) (run logs s (.ofText? submitter))).run db = (.ok o, db') ∧
      IsNotifiedList db s notified ∧ IsAscending (IsManager db s.contextId) managers ∧
      o.notifyUserIds = notified ∧ o.escalated = notified.isEmpty ∧
      o.notifications = requestsFor s notified managers ∧
      db'.rows Table.notifications =
        (db.rows Table.notifications).filter (fun row =>
          !isAbout s (NotificationType.pendingDecisions ++ [.approveSubmission]) row) ++
        storedNotices now db.orphans
          ((db.rows Table.notifications).filter fun row =>
            !isAbout s NotificationType.pendingDecisions row).length
          o.notifications := by
  obtain ⟨o, ds, db', hrun, ⟨a⟩, hleads⟩ := run_alone h.sound hnow logs s (.ofText? submitter)
  refine ⟨o, db', notifiedUsers db s, db.managers (.text s.contextId), hrun,
    notifiedUsers_isNotifiedList h s, ⟨pairwise_users db _ _, fun _ => h.mem_managers⟩,
    a.notifyUserIds, a.escalated, ?_, ?_⟩
  · rw [a.notifications, requestsFor, recipients, sentType, sentLevel]
    split <;> rfl
  · rw [hleads.rows_eq h.toPlain, a.replay_notifications hnotices]

/-- In the small office the notification of a pending approval gives way to those that are sent. -/
theorem office_routing : office.WellFormed ∧
    (∀ row ∈ office.rows Table.notifications, row.IsNotification) ∧ dawn.offset = some .utc ∧
    ∃ o db', (sessionOf (.shows dawn) (run true paper (.ofText? none))).run office = (.ok o, db') ∧
      db'.rows Table.notifications = storedNotices dawn [] 1 o.notifications := by
  have hnotices : ∀ row ∈ office.rows Table.notifications, row.IsNotification := by
    intro row hrow
    obtain rfl := List.mem_singleton.1 hrow
    exact ⟨⟨by decide, trivial, trivial, trivial, trivial, trivial⟩, ⟨_, rfl⟩, ⟨_, rfl⟩, ⟨_, rfl⟩⟩
  have hdawn : dawn.offset = some .utc := rfl
  obtain ⟨o, db', notified, managers, hrun, -, -, -, -, -, hrows⟩ :=
    routing_exact office_wellFormed hnotices hdawn true paper none
  exact ⟨office_wellFormed, hnotices, hdawn, o, db', hrun, hrows⟩

end EditorialDesk.Intake
