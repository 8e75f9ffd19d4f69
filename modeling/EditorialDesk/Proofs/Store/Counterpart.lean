import EditorialDesk.Proofs.Store.Mirror
import EditorialDesk.Proofs.Store.Service
import EditorialDesk.Proofs.Store.SteadyDatabase
import EditorialDesk.Proofs.Store.SteadyMemory

/-!
# Requests to a store in memory and to its mirror

A store in memory and its mirror answer the requests of an intake alike, each by its own
clock, and are a store and its mirror again. Look-ups in the directory have the same
answers but for the order of the managers. An enrolment is turned away by both, or takes
its seat on both.
-/
namespace EditorialDesk

/-- The wish for a seat. -/
def Seat.asked (x : Seat) (recommendOnly : Bool) : Enrollment :=
  ⟨.text x.submissionId, .text x.groupId, .text x.userId, .bool recommendOnly⟩

@[simp] theorem Seat.sharesSeat_asked {x y : Seat} {flag flag' : Bool} :
    (x.asked flag).sharesSeat (y.asked flag') = true ↔ x = y := by
  obtain ⟨submission, group, user⟩ := x
  obtain ⟨submission', group', user'⟩ := y
  simp [asked, Enrollment.sharesSeat, and_assoc]

@[simp] theorem Seat.isFor_asked {x y : Seat} {flag : Bool} :
    (x.asked flag).isFor y = true ↔ x = y := by
  obtain ⟨submission, group, user⟩ := x
  obtain ⟨submission', group', user'⟩ := y
  simp [asked, Enrollment.isFor, and_assoc]

namespace Store

open Database

/-- An assignment has a seat. -/
def Memory.IsTaken (m : Memory) (x : Seat) : Prop := ∃ a ∈ m.assignments, a.seat = x

/-- A state in memory with the same directory and assignments. -/
structure Memory.Quiet (m m' : Memory) : Prop where
  rosters : m'.rosters = m.rosters
  bindings : m'.bindings = m.bindings
  outages : m'.outages = m.outages
  assignments : m'.assignments = m.assignments

/-- A state of the database with the same directory and assignments. -/
abbrev Quiet : Database → Database → Prop :=
  Spares (· ∈ Table.stageAssignments :: Table.directory)

/-- An orderly store in memory, and a mirror of it. -/
structure Paired (contextId : String) (m : Memory) (db : Database) : Prop where
  orderly : m.Orderly
  mirrors : Mirrors m contextId db

variable {contextId : String} {m m' : Memory} {db db' : Database} {x : Seat}

lemma Memory.quiet_refl (m : Memory) : m.Quiet m := ⟨rfl, rfl, rfl, rfl⟩

lemma Memory.Quiet.trans {n : Memory} (h : m.Quiet n) (h' : n.Quiet m') : m.Quiet m' :=
  ⟨h'.1.trans h.1, h'.2.trans h.2, h'.3.trans h.3, h'.4.trans h.4⟩

lemma Memory.Orderly.of_eq (hm : m.Orderly) (hrosters : m'.rosters = m.rosters)
    (hbindings : m'.bindings = m.bindings) (houtages : m'.outages = m.outages) : m'.Orderly where
  outages := houtages.trans hm.outages
  names := hrosters ▸ hm.names
  stages := hrosters ▸ hm.stages
  groups := hrosters ▸ hm.groups
  members := hrosters ▸ hm.members
  groupings := hbindings ▸ hm.groupings
  bindings type id := by
    have hbound : m'.boundTo type id = m.boundTo type id := by
      unfold Memory.boundTo
      rw [hbindings]
    exact hbound ▸ hm.bindings type id

lemma Memory.Orderly.sound (hm : m.Orderly) : m.Sound := ⟨hm.groups.imp ne_of_lt, hm.outages⟩

lemma Memory.Quiet.isTaken_iff (h : m.Quiet m') : m'.IsTaken x ↔ m.IsTaken x := by
  unfold Memory.IsTaken
  rw [h.assignments]

lemma Memory.isTaken_concat {a : StageAssignment} (h : m'.assignments = m.assignments ++ [a]) :
    m'.IsTaken x ↔ m.IsTaken x ∨ a.seat = x := by
  simp [Memory.IsTaken, h, or_and_right, exists_or]

/-- What is in the directory is mirrored as long as neither directory changes. -/
lemma Paired.of_spares (h : Paired contextId m db) (hrosters : m'.rosters = m.rosters)
    (hbindings : m'.bindings = m.bindings) (houtages : m'.outages = m.outages)
    (hdb : Spares (· ∈ Table.directory) db db')
    (hassignments : List.Forall₂ IsRowOf m'.assignments (db'.rows Table.stageAssignments)) :
    Paired contextId m' db' where
  orderly := h.orderly.of_eq hrosters hbindings houtages
  mirrors :=
    { scripts := by rw [← hdb.frame]; exact h.mirrors.scripts
      unreadable := by rw [← hdb.frame]; exact h.mirrors.unreadable
      replies := by rw [← hdb.frame]; exact h.mirrors.replies
      unique := by rw [← hdb.frame]; exact h.mirrors.unique
      groups := by rw [hdb.rows _ (by decide), hrosters, h.mirrors.groups]
      stages := by rw [hdb.rows _ (by decide), hrosters, h.mirrors.stages]
      memberships := by rw [hdb.rows _ (by decide), hrosters, h.mirrors.memberships]
      subEditors := by rw [hdb.rows _ (by decide), hbindings, h.mirrors.subEditors]
      assignments := hassignments }

/-- What was a store and its mirror still is, whatever happened besides. -/
lemma Paired.quiet (h : Paired contextId m db) (hm : m.Quiet m') (hdb : Quiet db db') :
    Paired contextId m' db' := by
  refine h.of_spares hm.rosters hm.bindings hm.outages
    (hdb.mono fun _ ht => List.mem_cons_of_mem _ ht) ?_
  rw [hdb.rows _ List.mem_cons_self, hm.assignments]
  exact h.mirrors.assignments

lemma Paired.quiet_left (h : Paired contextId m db) (hm : m.Quiet m') : Paired contextId m' db :=
  h.quiet hm (.refl _ db)

lemma Paired.quiet_right (h : Paired contextId m db) (hdb : Quiet db db') :
    Paired contextId m db' :=
  h.quiet m.quiet_refl hdb

lemma Paired.mem_seats_iff (h : Paired contextId m db) :
    x.labels ∈ seats (db.rows Table.stageAssignments) ↔ m.IsTaken x := h.mirrors.mem_seats_iff

/-- What the intake of a submission of the context asks, but for enrolments. -/
def Concerns (contextId : String) : Request → Prop
  | .groupsForStage c _ | .managers c => ∃ s, c = .text s
  | .groupsForUser userId c => (∃ s, userId = .text s) ∧ ∃ s, c = .text s
  | .group id => ∃ s, id = .text s
  | .members groupId c => (∃ s, groupId = .text s) ∧ ∃ s, c = .text s
  | .subEditors grouping c => (∃ s, grouping.id = .text s) ∧ c = .text contextId
  | .assignments query => (∃ s, query.submissionId = .text s) ∧ query.stage = none
  | .notify notice => notice.userId.isName = true
  | .withdraw types .. => types ≠ []
  | .log event => ∀ now, ∃ entry, LogEntry.ofEvent none now event = .accepted entry
  | .enroll _ | .save _ => False

/-- How the answers go together: they are the same, or at least of the same users or of seats that
are taken. -/
def Agree (m : Memory) : (q : Request) → q.Answer → q.Answer → Prop
  | .groupsForStage .., gs, gs' | .groupsForUser .., gs, gs' => gs = gs'
  | .group id, g, g' => g = g' ∧ ∀ x ∈ g, id = .text x.id
  | .members .., users, users' | .subEditors .., users, users' =>
    users = users' ∧ ∀ v ∈ users, ∃ s, v = .text s
  | .managers _, users, users' => ∃ names names' : List String,
    users = names.map .text ∧ users' = names'.map .text ∧ names.Nodup ∧ names.Perm names'
  | .assignments query, as, as' =>
    ∀ a ∈ as ++ as', query.submissionId = .text a.seat.submissionId ∧ m.IsTaken a.seat
  | _, _, _ => True

lemma session_run (hdb : db.Sound) (k : UtcMoment) {q : Request} (hq : Servable k q) :
    ∃ r ds db', (session (.shows k) q).run db = (.ok r, db') ∧ Served k db db q r ds db' ∧
      Later db db' ∧ Leads db ds db' := by
  obtain ⟨r, ds, db', hrun, ⟨⟨hlater, hserved⟩, -⟩, hleads⟩ :=
    run_of_meets (session_meets hdb k.2 hq (.refl db))
  exact ⟨r, ds, db', hrun, hserved, hlater, hleads⟩

/-- Only enrolments change the table of assignments. -/
lemma quiet_of_served (hdb : db.Plain) {k : UtcMoment} {q : Request} {r : q.Answer}
    {ds : List Deed} (hserved : Served k db db q r ds db') (hq : Concerns contextId q)
    (hlater : Later db db') (hleads : Leads db ds db') : Quiet db db' := by
  have hnone : ds.filterMap (Deed.storedIn? Table.stageAssignments) = [] := by
    cases q with
    | groupsForStage | groupsForUser | group | members | subEditors | managers =>
      obtain ⟨-, rfl⟩ := hserved
      rfl
    | assignments =>
      obtain ⟨rfl, -⟩ := hserved
      rfl
    | notify =>
      obtain ⟨place, rfl, -⟩ := hserved
      rfl
    | withdraw =>
      obtain rfl := hserved
      rfl
    | log =>
      obtain ⟨place, rfl⟩ := hserved
      rfl
    | enroll | save => exact hq.elim
  refine ⟨hlater.frame, List.forall_mem_cons.2 ⟨?_, hlater.directory⟩⟩
  rw [hleads.rows_append hdb (by decide) (by decide), hnone, List.append_nil]

/-- A request that concerns the intake is answered alike, and changes neither directory nor
assignments. -/
theorem Paired.answers (h : Paired contextId m db) (k k' : UtcMoment) {q : Request}
    (hq : Concerns contextId q) :
    ∃ r m' r' db', m.serve (.shows k) q = (.ok r, m') ∧
      (session (.shows k') q).run db = (.ok r', db') ∧ m.Quiet m' ∧ Quiet db db' ∧
        Agree m q r r' := by
  have hsound := h.mirrors.sound
  have hservable : Servable k' q := by
    cases q with
    | group id =>
      obtain ⟨id, rfl⟩ := hq
      rfl
    | members id =>
      obtain ⟨⟨id, rfl⟩, -⟩ := hq
      rfl
    | assignments query => exact hq.2
    | notify | withdraw => exact hq
    | log => exact hq _
    | groupsForStage | groupsForUser | subEditors | managers => trivial
    | enroll | save => exact hq.elim
  obtain ⟨r', ds, db', hrun, hserved, hlater, hleads⟩ := session_run hsound k' hservable
  have hquiet := quiet_of_served hsound.toPlain hserved hq hlater hleads
  have texts : ∀ names : List String, ∀ v ∈ names.map Value.text, ∃ s, v = .text s := by
    intro names v hv
    obtain ⟨s, -, rfl⟩ := List.mem_map.1 hv
    exact ⟨s, rfl⟩
  rw [h.orderly.sound.serve_eq]
  suffices hmemory : ∃ r m', m.answer (.shows k) q = (.ok r, m') ∧ m.Quiet m' ∧ Agree m q r r' by
    obtain ⟨r, m', hanswer, hm, hagree⟩ := hmemory
    exact ⟨r, m', r', db', hanswer, hrun, hm, hquiet, hagree⟩
  cases q with
  | groupsForStage c stage =>
    obtain ⟨c, rfl⟩ := hq
    obtain ⟨rfl, -⟩ := hserved
    exact ⟨_, m, rfl, m.quiet_refl, (h.mirrors.groupsForStage_eq h.orderly c stage).symm⟩
  | groupsForUser userId c =>
    obtain ⟨⟨userId, rfl⟩, c, rfl⟩ := hq
    obtain ⟨rfl, -⟩ := hserved
    exact ⟨_, m, rfl, m.quiet_refl, (h.mirrors.groupsForUser_eq h.orderly userId c).symm⟩
  | group id =>
    obtain ⟨id, rfl⟩ := hq
    obtain ⟨rfl, -⟩ := hserved
    refine ⟨_, m, rfl, m.quiet_refl, (h.mirrors.group?_eq h.orderly id).symm, fun g hg => ?_⟩
    obtain ⟨r, hr, rfl⟩ := Option.map_eq_some_iff.1 hg
    rw [(mem_roster? hr).2]
  | members id c =>
    obtain ⟨⟨id, rfl⟩, c, rfl⟩ := hq
    obtain ⟨rfl, -⟩ := hserved
    exact ⟨_, m, Prod.ext (h.mirrors.members_eq h.orderly id c) rfl, m.quiet_refl, rfl, texts _⟩
  | subEditors grouping c =>
    obtain ⟨⟨id, hid⟩, rfl⟩ := hq
    obtain ⟨type, _⟩ := grouping
    obtain rfl := hid
    obtain ⟨rfl, -⟩ := hserved
    exact ⟨_, m, Prod.ext (h.mirrors.subEditors_eq h.orderly type id) rfl, m.quiet_refl, rfl,
      texts _⟩
  | managers c =>
    obtain ⟨c, rfl⟩ := hq
    obtain ⟨rfl, -⟩ := hserved
    obtain ⟨names, hnames, hperm⟩ := h.mirrors.managers_perm h.orderly c
    have hnodup : names.Nodup := hperm.nodup_iff.2 (nodup_users _)
    exact ⟨_, m, Prod.ext hnames rfl, m.quiet_refl, names, _, rfl, rfl, hnodup, hperm⟩
  | assignments query =>
    obtain ⟨⟨id, hid⟩, -⟩ := hq
    obtain ⟨-, hfound⟩ := hserved
    refine ⟨_, m, rfl, m.quiet_refl, fun a ha => ?_⟩
    rcases List.mem_append.1 ha with ha | ha
    · obtain ⟨hmem, hmatches⟩ := List.mem_filter.1 ha
      simp only [Memory.matchesQuery, Bool.and_eq_true, beq_iff_eq] at hmatches
      exact ⟨hmatches.1.1.1, a, hmem, rfl⟩
    · obtain ⟨hseat, hsubmission⟩ := hfound a ha
      rw [hquiet.rows _ (by decide), h.mem_seats_iff] at hseat
      rw [hid, hsubmission, hid, Value.label_text]
      exact ⟨rfl, hseat⟩
  | notify notice => exact ⟨_, _, rfl, ⟨rfl, rfl, rfl, rfl⟩, trivial⟩
  | withdraw types target targetId => exact ⟨_, _, rfl, ⟨rfl, rfl, rfl, rfl⟩, trivial⟩
  | log event =>
    obtain ⟨entry, hentry⟩ :=
      ofEvent_accepted (hq k) (some (Memory.numberedId "ev" m.events.length))
    refine ⟨entry, { m with events := m.events ++ [entry] }, ?_, ⟨rfl, rfl, rfl, rfl⟩, trivial⟩
    simp only [Memory.answer, Memory.log, Reading.look, bind, Except.bind, hentry, Fault.ofChecked]
  | enroll | save => exact hq.elim

/-- An enrolment for a seat that is taken is turned away on both sides. -/
theorem Paired.turned_away (h : Paired contextId m db) (k k' : UtcMoment) (hx : m.IsTaken x)
    (flag : Bool) :
    ∃ m' db', m.serve (.shows k) (.enroll (x.asked flag)) = (.ok none, m') ∧
      (session (.shows k') (.enroll (x.asked flag))).run db = (.ok none, db') ∧ m.Quiet m' ∧
        Quiet db db' := by
  have htaken : m.assignments.any ((x.asked flag).isFor ·.seat) = true := by
    obtain ⟨a, ha, rfl⟩ := hx
    exact List.any_eq_true.2 ⟨a, ha, Seat.isFor_asked.2 rfl⟩
  have hrefused : IsRefused db (x.asked flag) :=
    .inr ⟨h.mirrors.toPlain.failure?_eq _ _, h.mem_seats_iff.2 hx⟩
  refine ⟨{ m with attempts := m.attempts ++ [x.asked flag] }, _, ?_,
    run_enroll_of_isRefused h.mirrors.toPlain.firm hrefused, ⟨rfl, rfl, rfl, rfl⟩,
    spares_note _ db _⟩
  rw [h.orderly.sound.serve_eq, Memory.answer, Memory.enroll_taken htaken]

/-- An enrolment for a free seat takes it on both sides. -/
theorem Paired.enrolled (h : Paired contextId m db) (k k' : UtcMoment) (hx : ¬m.IsTaken x)
    (flag : Bool) :
    ∃ a m' b db', m.serve (.shows k) (.enroll (x.asked flag)) = (.ok (some a), m') ∧
      (session (.shows k') (.enroll (x.asked flag))).run db = (.ok (some b), db') ∧
        Paired contextId m' db' ∧ m'.assignments = m.assignments ++ [a] ∧
          (a.seat = x ∧ a.recommendOnly = flag) ∧ b.seat = x ∧ b.recommendOnly = flag := by
  have hplain := h.mirrors.toPlain
  have hseat : seatOf (x.asked flag) ∉ seats (db.rows Table.stageAssignments) :=
    mt h.mem_seats_iff.1 hx
  obtain ⟨r, ds, db', hrun, ⟨place, rfl, -, -, -⟩, hlater, -⟩ :=
    session_run h.mirrors.sound k' (q := .enroll (x.asked flag)) trivial
  obtain ⟨hplace, rfl⟩ : place ≠ none ∧
      db' = db.inserted Table.stageAssignments (assignmentRow k' (x.asked flag)) := by
    have hfree := run_enroll_of_free hplain.firm (hplain.failure?_eq _ _) hseat hrun
    exact ⟨fun hnone => hfree.1 (by rw [hnone]; rfl), hfree.2⟩
  obtain ⟨n, rfl⟩ := Option.ne_none_iff_exists'.1 hplace
  set a : StageAssignment := ⟨some (Memory.numberedId "sa" m.assignments.length), x, flag, some k⟩
  have hfree : m.assignments.any ((x.asked flag).isFor ·.seat) = false := by
    rw [← Bool.not_eq_true, List.any_eq_true]
    rintro ⟨a, ha, hfor⟩
    exact hx ⟨a, ha, (Seat.isFor_asked.1 hfor).symm⟩
  have hmade : StageAssignment.ofEnrollment (Memory.numberedId "sa" m.assignments.length) k
      (x.asked flag) = .accepted a := rfl
  refine ⟨a,
    { m with attempts := m.attempts ++ [x.asked flag], assignments := m.assignments ++ [a] },
    assignmentAt k' (x.asked flag) n, _, ?_, hrun, ?_, rfl, ⟨rfl, rfl⟩, rfl, ?_⟩
  · rw [h.orderly.sound.serve_eq, Memory.answer]
    unfold Memory.enroll
    dsimp only
    rw [hfree]
    simp only [Bool.false_eq_true, if_false, Reading.look, bind, Except.bind, hmade,
      Fault.ofChecked]
  · refine h.of_spares rfl rfl rfl ⟨hlater.frame, hlater.directory⟩ ?_
    rw [inserted, rows_setRows, if_pos rfl]
    exact List.rel_append h.mirrors.assignments
      (.cons ⟨_, assignmentOf_identified k'.2 _ _, rfl⟩ .nil)
  · cases flag <;> rfl

end Store
end EditorialDesk
