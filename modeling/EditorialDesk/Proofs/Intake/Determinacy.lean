import EditorialDesk.Proofs.Intake.Overlap

/-!
# What a run depends on

A run looks at the directory and at the seats that are taken. Two runs to which the
directory says the same, and which find the same seats taken, come to the same outcome and
add the same rows; which assignments of the submitter they come upon, and in what order,
does not show.
-/
namespace EditorialDesk

open Database

/-- The queries among deeds that concern a table. -/
def queriesOn (table : String) (ds : List Deed) : List Call :=
  (ds.map (·.call)).filter (·.table == table)

/-- What becomes of a table is told by the queries that concern it. -/
lemma Database.replay_eq_foldl (orphans : List Value) (table : String) (rows : List Row)
    (ds : List Deed) :
    replay orphans table rows ds = (queriesOn table ds).foldl (effect orphans) rows := by
  unfold replay queriesOn
  rw [List.foldl_filter, List.foldl_map]
  refine congrArg (fun f => ds.foldl f rows) (funext fun rows => funext fun d => ?_)
  exact if_congr (eq_comm.trans beq_iff_eq.symm) rfl rfl

/-- The rows that are entered depend on how many rows there are, and on their seats. -/
lemma Database.added_congr {rows rows' : List Row} (hlength : rows'.length = rows.length)
    (hseats : ∀ x, x ∈ seats rows' ↔ x ∈ seats rows) (wanted : List Row) :
    added rows' wanted = added rows wanted := by
  induction wanted generalizing rows rows' with
  | nil => rfl
  | cons row rest ih =>
    unfold added
    by_cases hrow : seatLabels row ∈ seats rows
    · rw [if_pos hrow, if_pos ((hseats _).2 hrow), ih hlength hseats]
    · rw [if_neg hrow, if_neg (mt (hseats _).1 hrow), hlength]
      refine congrArg (_ :: ·) (ih ?_ fun x => ?_)
      · rw [List.length_append, List.length_append, hlength]
      · rw [seats_append, seats_append, List.mem_append, List.mem_append, hseats]

/-- Lists are equal if a function that tells their items apart makes them so. -/
lemma eq_of_map_eq {α β : Type} {f : α → β} {xs ys : List α}
    (hinj : ∀ x ∈ xs, ∀ y ∈ ys, f x = f y → x = y) (h : xs.map f = ys.map f) : xs = ys := by
  induction xs generalizing ys with
  | nil => exact (List.map_eq_nil_iff.1 h.symm).symm
  | cons x rest ih =>
    cases ys with
    | nil => cases h
    | cons y ys =>
      obtain ⟨hxy, hrest⟩ := List.cons.inj h
      rw [hinj x List.mem_cons_self y List.mem_cons_self hxy,
        ih (fun a ha b hb => hinj a (List.mem_cons_of_mem x ha) b (List.mem_cons_of_mem y hb))
          hrest]

namespace Intake

open Store

/-- The queries by which the enrolment of a wish is logged. -/
def entry (now : Calendar.Moment) (logs : Bool) (s : Submission) (w : Wish) : List Call :=
  if logs then
    (Deed.logs now (participantEvent s.id w.group (.text w.userId)) 0).map (·.call)
  else []

/-- What a run writes apart from assignments, told by the wishes whose seats it has taken. -/
def writings (now : Calendar.Moment) (base : Database) (logs : Bool) (s : Submission)
    (seated : List Wish) : List Call :=
  seated.flatMap (entry now logs s) ++
    .delete Table.notifications
      (withdrawn NotificationType.pendingDecisions .submission (.text s.id)) ::
    ((recipients base s).map (fun userId => .insert Table.notifications
      (notificationRow now (requestTo s (sentType base s) (sentLevel base s) userId).notice)) ++
    [.delete Table.notifications (withdrawn [.approveSubmission] .submission (.text s.id))])

variable {now : Calendar.Moment} {base : Database} {logs : Bool} {s : Submission}
variable {o o' : Outcome} {ds ds' : List Deed} {t t' u u' : Database}

/-- The wishes whose seats a run has taken. -/
def Account.seated (a : Account now base logs s o ds u) : List Wish :=
  (a.trials.filter (·.place.isSome)).map (·.wish)

/-- A run takes the seats of the assignments that it stores. -/
lemma Account.seats_seated (a : Account now base logs s o ds u) :
    seats (ds.filterMap (Deed.storedIn? Table.stageAssignments)) =
      a.seated.map fun w => (w.seat s).labels := by
  unfold seats seated
  rw [a.storedIn_assignments, List.map_map]
  induction a.trials with
  | nil => rfl
  | cons x rest ih =>
    unfold Trial.stored? at ih ⊢
    cases hplace : x.place with
    | none => simpa [hplace] using ih
    | some place => simpa [hplace] using ih

/-- Apart from assignments, a trial writes the entry of a seat that it has taken. -/
lemma Trial.writings_eq (x : Trial) :
    ((x.deeds now logs s).map (·.call)).filter (·.table != Table.stageAssignments) =
      if x.place.isSome then entry now logs s x.wish else [] := by
  unfold deeds entry
  cases x.place with
  | none => rfl
  | some place =>
    cases logs with
    | false => rfl
    | true => rfl

lemma writings_trials (ts : List Trial) :
    ((ts.flatMap (·.deeds now logs s)).map (·.call)).filter (·.table != Table.stageAssignments) =
      ((ts.filter (·.place.isSome)).map (·.wish)).flatMap (entry now logs s) := by
  induction ts with
  | nil => rfl
  | cons x rest ih =>
    rw [List.flatMap_cons, List.map_append, List.filter_append, ih, x.writings_eq,
      List.filter_cons]
    split
    · rw [List.map_cons, List.flatMap_cons]
    · rfl

lemma calls_sent {type : NotificationType} {level : NotificationLevel} {users : List String}
    {sent : List Deed} (h : List.Forall₂ (Delivers now base s type level) users sent) :
    sent.map (·.call) = users.map fun userId =>
      .insert Table.notifications (notificationRow now (requestTo s type level userId).notice) := by
  induction h with
  | nil => rfl
  | cons hd _ ih =>
    obtain ⟨place, rfl, -⟩ := hd
    rw [List.map_cons, List.map_cons, ih]
    rfl

/-- What a run writes apart from assignments is told by the seats that it has taken. -/
lemma Account.writings_eq (a : Account now base logs s o ds u) :
    (ds.map (·.call)).filter (·.table != Table.stageAssignments) =
      writings now base logs s a.seated := by
  refine (congrArg (fun ds : List Deed => (ds.map (·.call)).filter
    (·.table != Table.stageAssignments)) a.deeds).trans ?_
  rw [List.map_append, List.filter_append, writings_trials]
  refine congrArg (_ ++ ·) ?_
  rw [List.map_cons, List.map_append, calls_sent a.sent_eq]
  refine List.filter_eq_self.2 fun c hc => ?_
  have hnotices : (Table.notifications != Table.stageAssignments) = true := by decide
  rcases List.mem_cons.1 hc with rfl | hc
  · exact hnotices
  · rcases List.mem_append.1 hc with hc | hc
    · obtain ⟨userId, -, rfl⟩ := List.mem_map.1 hc
      exact hnotices
    · rw [List.mem_singleton.1 hc]
      exact hnotices

lemma eq_of_mem_roster (h : base.WellFormed) {w w' : Wish} (hw : w ∈ roster base s)
    (hw' : w' ∈ roster base s) (hkey : w.key = w'.key) : w = w' := by
  obtain ⟨groupId, role, row, ⟨hrow, -⟩, hwish⟩ := (mem_roster h).1 hw
  obtain ⟨groupId', role', row', ⟨hrow', -⟩, hwish'⟩ := (mem_roster h).1 hw'
  rw [hwish, hwish'] at hkey ⊢
  obtain ⟨hgroup, huser⟩ := Prod.mk.inj hkey
  have hid : groupId = groupId' := by
    rw [← id_groupAt hrow, ← id_groupAt hrow']
    exact hgroup
  have hsame : row = row' :=
    h.hasGroups.group_unique hrow.1 hrow'.1 (by rw [hrow.2.1, hrow'.2.1, hid])
  have hrole : role = role' := by
    have hcode : role.code = role'.code := by
      have hget := hrow.2.2.2
      rw [hsame, hrow'.2.2.2] at hget
      exact (Value.int.inj hget).symm
    exact Option.some.inj ((Role.ofCode?_code role).symm.trans (hcode ▸ Role.ofCode?_code role'))
  have huser' : w.userId = w'.userId := huser
  rw [hsame, hrole, huser']

/-- Two runs have taken the same seats for the same wishes. -/
lemma Account.seated_eq (h : base.WellFormed) (a : Account now base logs s o ds u)
    (a' : Account now base logs s o' ds' u')
    (hstored : ds'.filterMap (Deed.storedIn? Table.stageAssignments) =
      ds.filterMap (Deed.storedIn? Table.stageAssignments)) : a'.seated = a.seated := by
  have hroster : ∀ {o : Outcome} {ds : List Deed} {u : Database}
      (a : Account now base logs s o ds u), ∀ w ∈ a.seated, w ∈ roster base s := by
    intro o ds u a w hw
    obtain ⟨x, hx, rfl⟩ := List.mem_map.1 hw
    obtain ⟨hx, hplace⟩ := List.mem_filter.1 hx
    exact a.wish_mem_roster hx (Option.isSome_iff_ne_none.1 hplace)
  have hseats := congrArg seats hstored
  rw [a.seats_seated, a'.seats_seated] at hseats
  refine eq_of_map_eq (fun w hw w' hw' hlabels => ?_) hseats
  exact eq_of_mem_roster h (hroster a' w hw) (hroster a w' hw')
    (Wish.seat_eq_iff.1 (Seat.labels_injective hlabels))

/-- Two runs with one directory that find the same seats taken: they come to the same outcome, add
the same assignments, and leave a table alike that they have found alike. -/
theorem Account.determined (h : base.WellFormed) (hnow : now.offset = some .utc)
    (a : Account now base logs s o ds u) (a' : Account now base logs s o' ds' u')
    (hleads : Leads t ds u) (hleads' : Leads t' ds' u') (ht : t.Plain) (ht' : t'.Plain)
    (horphans : t'.orphans = t.orphans)
    (hseats : (t'.rows Table.stageAssignments).Perm (t.rows Table.stageAssignments)) :
    o' = o ∧
    (∃ rows, u.rows Table.stageAssignments = t.rows Table.stageAssignments ++ rows ∧
      u'.rows Table.stageAssignments = t'.rows Table.stageAssignments ++ rows) ∧
    ∀ table, table ≠ Table.stageAssignments → t'.rows table = t.rows table →
      u'.rows table = u.rows table := by
  have hadded : added (t'.rows Table.stageAssignments) ((roster base s).map (·.row now s)) =
      added (t.rows Table.stageAssignments) ((roster base s).map (·.row now s)) :=
    added_congr hseats.length_eq (fun x => (hseats.map seatLabels).mem_iff) _
  have hstored := a.storedIn_eq_added hleads ht
  have hstored' := a'.storedIn_eq_added hleads' ht'
  have hsame := hstored'.trans (hadded.trans hstored.symm)
  refine ⟨?_, ⟨_, hleads.rows_append ht (by decide) (by decide), ?_⟩, fun table hne htable => ?_⟩
  · have hcreated : o'.created = o.created := by
      have hmap := a.created_eq hnow
      rw [← hsame, a'.created_eq hnow] at hmap
      exact List.map_injective_iff.2 (fun _ _ => Except.ok.inj) hmap
    obtain ⟨created, notify, notifications, escalated⟩ := o
    obtain ⟨created', notify', notifications', escalated'⟩ := o'
    obtain rfl : created' = created := hcreated
    obtain rfl : notify' = notify := a'.notifyUserIds.trans a.notifyUserIds.symm
    obtain rfl : notifications' = notifications := a'.notifications.trans a.notifications.symm
    obtain rfl : escalated' = escalated := a'.escalated.trans a.escalated.symm
    rfl
  · rw [← hsame]
    exact hleads'.rows_append ht' (by decide) (by decide)
  · have hqueries : ∀ {o : Outcome} {ds : List Deed} {u : Database}
        (a : Account now base logs s o ds u),
        queriesOn table ds = (writings now base logs s a.seated).filter (·.table == table) := by
      intro o ds u a
      rw [← a.writings_eq, List.filter_filter]
      refine List.filter_congr fun c _ => ?_
      cases htable : c.table == table with
      | false => rfl
      | true =>
        have hne' : c.table ≠ Table.stageAssignments := by
          rw [beq_iff_eq.1 htable]
          exact hne
        simpa using hne'
    rw [hleads.rows_eq ht, hleads'.rows_eq ht', replay_eq_foldl, replay_eq_foldl, hqueries a,
      hqueries a', a.seated_eq h a' hsame, horphans, htable]

end Intake
end EditorialDesk
