import EditorialDesk.Proofs.Database.Admission
import EditorialDesk.Proofs.Database.Standing
import EditorialDesk.Proofs.Program.Dialogue
import EditorialDesk.Proofs.Value.Alike

/-!
# The scope of queries

A scope says whose submissions may be dated, and which notifications may be withdrawn and
sent. Queries within a scope change nothing else but that assignments and log entries are
added; the directory stays as it is, and no seat is taken twice. That holds after each
query, whether it was performed, was refused, or failed for a reason of its own, and so
after every session, also one that is given up.
-/
namespace EditorialDesk

/-- What may be changed. -/
structure Scope where
  /-- The submissions whose rows may be dated, by the labels of their identities. -/
  dates : String → Prop
  /-- The notifications that may be withdrawn. -/
  withdraws : Row → Prop
  /-- The notifications that may be sent. -/
  sends : Row → Prop

/-- A wider scope allows more. -/
instance : LE Scope where
  le x y := (∀ id, x.dates id → y.dates id) ∧ (∀ row, x.withdraws row → y.withdraws row) ∧
    ∀ row, x.sends row → y.sends row

namespace Table

/-- The tables that are written at all. -/
def written : List String := [stageAssignments, eventLog, submissions, notifications]

/-- The columns of a submission that tell how far it has come and when. -/
def datedColumns : List String :=
  ["submission_progress", "date_submitted", "date_last_activity", "last_modified"]

end Table

/-- A row that tells by texts what kind of notification it is and what it is about. -/
structure Fields.IsMarked (row : Row) : Prop where
  type : ∃ word, row.get "type" = .text word
  target : ∃ word, row.get "assoc_type" = .text word
  targetId : ∃ id, row.get "assoc_id" = .text id

/-- What may become of the row of a submission: one that may not be dated stays as it is, and
otherwise only the dates change, and the progress with them. -/
structure Scope.MayDate (x : Scope) (row row' : Row) : Prop where
  others : ¬x.dates (row.label "id") → row' = row
  columns : ∀ column ∉ Table.datedColumns, row'.get? column = row.get? column

namespace Database

variable {x y : Scope} {db mid db' : Database} {rows : List Row}

/-- What a change within a scope leaves as it is, and what it adds. -/
structure Within (x : Scope) (db db' : Database) : Prop where
  elsewhere : ∀ table ∉ Table.written, db'.rows table = db.rows table
  assignments : db.rows Table.stageAssignments <+: db'.rows Table.stageAssignments
  log : db.rows Table.eventLog <+: db'.rows Table.eventLog
  submissions : ∃ change : Row → Row, (∀ row, x.MayDate row (change row)) ∧
    db'.rows Table.submissions = (db.rows Table.submissions).map change
  notifications : ∃ (keep : Row → Bool) (new : List Row),
    (∀ row ∈ db.rows Table.notifications, ¬x.withdraws row → keep row = true) ∧
      (∀ row ∈ new, x.sends row) ∧
      db'.rows Table.notifications = (db.rows Table.notifications).filter keep ++ new

/-- All tables hold rows, no seat is taken twice, and none can be; every notification says what it
is. Failures may be scripted, and inserts may be answered by anything. -/
structure IsTidy (db : Database) : Prop where
  unreadable : db.unreadable = []
  unique : db.unique = true
  seats : (seats (db.rows Table.stageAssignments)).Nodup
  notifications : ∀ row ∈ db.rows Table.notifications, row.IsMarked

lemma within_of_table {t : String} (ht : t ∈ Table.written)
    (hothers : ∀ table ≠ t, db'.rows table = db.rows table)
    (hgrows : t = Table.stageAssignments ∨ t = Table.eventLog → db.rows t <+: db'.rows t)
    (hsubmissions : t = Table.submissions → ∃ change : Row → Row,
      (∀ row, x.MayDate row (change row)) ∧ db'.rows t = (db.rows t).map change)
    (hnotifications : t = Table.notifications → ∃ (keep : Row → Bool) (new : List Row),
      (∀ row ∈ db.rows t, ¬x.withdraws row → keep row = true) ∧ (∀ row ∈ new, x.sends row) ∧
        db'.rows t = (db.rows t).filter keep ++ new) : Within x db db' where
  elsewhere table htable := hothers table fun h => htable (h ▸ ht)
  assignments := by
    by_cases h : Table.stageAssignments = t
    · exact h ▸ hgrows (.inl h.symm)
    · exact hothers _ h ▸ List.prefix_rfl
  log := by
    by_cases h : Table.eventLog = t
    · exact h ▸ hgrows (.inr h.symm)
    · exact hothers _ h ▸ List.prefix_rfl
  submissions := by
    by_cases h : Table.submissions = t
    · exact h ▸ hsubmissions h.symm
    · exact ⟨id, fun row => ⟨fun _ => rfl, fun _ _ => rfl⟩, by rw [hothers _ h, List.map_id]⟩
  notifications := by
    by_cases h : Table.notifications = t
    · exact h ▸ hnotifications h.symm
    · exact ⟨fun _ => true, [], fun _ _ _ => rfl, by simp, by simp [hothers _ h]⟩

lemma within_of_rows_eq (x : Scope) (h : ∀ table, db'.rows table = db.rows table) :
    Within x db db' :=
  within_of_table (List.mem_cons_self : Table.stageAssignments ∈ Table.written)
    (fun table _ => h table) (fun _ => h Table.stageAssignments ▸ List.prefix_rfl)
    (fun ht => absurd ht (by decide)) fun ht => absurd ht (by decide)

lemma Within.trans (h : Within x db mid) (h' : Within x mid db') : Within x db db' where
  elsewhere table ht := (h'.elsewhere table ht).trans (h.elsewhere table ht)
  assignments := h.assignments.trans h'.assignments
  log := h.log.trans h'.log
  submissions := by
    obtain ⟨change, hchange, hrows⟩ := h.submissions
    obtain ⟨change', hchange', hrows'⟩ := h'.submissions
    refine ⟨change' ∘ change, fun row => ⟨fun hrow => ?_, fun column hcolumn => ?_⟩, ?_⟩
    · have hsame : change row = row := (hchange row).others hrow
      rw [Function.comp_apply, hsame, (hchange' row).others hrow]
    · rw [Function.comp_apply, (hchange' (change row)).columns column hcolumn,
        (hchange row).columns column hcolumn]
    · rw [hrows', hrows, List.map_map]
  notifications := by
    obtain ⟨keep, new, hkeep, hnew, hrows⟩ := h.notifications
    obtain ⟨keep', new', hkeep', hnew', hrows'⟩ := h'.notifications
    refine ⟨fun row => keep row && keep' row, new.filter keep' ++ new', ?_, ?_, ?_⟩
    · intro row hrow hx
      have hfirst : keep row = true := hkeep row hrow hx
      have hmem : row ∈ mid.rows Table.notifications := by
        rw [hrows]
        exact List.mem_append_left _ (List.mem_filter.2 ⟨hrow, hfirst⟩)
      exact Bool.and_eq_true_iff.2 ⟨hfirst, hkeep' row hmem hx⟩
    · intro row hrow
      rcases List.mem_append.1 hrow with hrow | hrow
      · exact hnew row (List.mem_filter.1 hrow).1
      · exact hnew' row hrow
    · rw [hrows', hrows, List.filter_append, List.filter_filter, List.append_assoc]
      simp only [Bool.and_comm]

lemma Within.mono (h : Within x db db') (hxy : x ≤ y) : Within y db db' where
  elsewhere := h.elsewhere
  assignments := h.assignments
  log := h.log
  submissions := by
    obtain ⟨change, hchange, hrows⟩ := h.submissions
    exact ⟨change, fun row => ⟨fun hy => (hchange row).others fun hx => hy (hxy.1 _ hx),
      (hchange row).columns⟩, hrows⟩
  notifications := by
    obtain ⟨keep, new, hkeep, hnew, hrows⟩ := h.notifications
    exact ⟨keep, new, fun row hrow hy => hkeep row hrow fun hx => hy (hxy.2.1 row hx),
      fun row hrow => hxy.2.2 row (hnew row hrow), hrows⟩

/-! ## One query -/

/-- Where no constraint is violated the row is not refused. -/
lemma refuses_of_violation? (hdb : db.unreadable = []) (hunique : db.unique = true)
    {table : String} {row : Row} (h : db.violation? table row = .ok none) :
    refuses db.orphans (db.rows table) table row = false := by
  have hne : Table.notifications ≠ Table.stageAssignments := by decide
  by_cases hs : table = Table.stageAssignments
  · subst hs
    have hreadable : db.unreadable? Table.stageAssignments = none := by
      simp [unreadable?, hdb, Fields.get?]
    simp only [violation?, hunique, takesSeat, hreadable, bind, Except.bind, pure, Except.pure,
      beq_self_eq_true, Bool.and_self, if_true, Except.ok.injEq] at h
    by_cases htaken : (db.rows Table.stageAssignments).any (seatLabels · == seatLabels row) = true
    · simp [htaken] at h
    · simp [refuses, hne.symm, htaken]
  · by_cases hn : table = Table.notifications
    · subst hn
      by_cases horphan : db.orphans.any (·.alike (row.get "user_id")) = true
      · by_cases hname : (row.get "user_id").isName = true
        · simp [violation?, hne, hname, horphan, pure, Except.pure] at h
        · simp [violation?, hne, hname] at h
      · simp [refuses, hne, horphan]
    · simp [refuses, hs, hn]

/-- What can become of a query where all tables hold rows: it fails, noted or not, or it takes
effect. Scripts may have been counted down. -/
theorem perform_cases (hdb : db.unreadable = []) (c : Call) : ∃ scripts,
    (∃ e, db.perform c = (.error e, { db with scripts }) ∨
      db.perform c = (.error e, { db with scripts }.note c)) ∨
    db.obstacle? c = .ok none ∧ db.perform c = ({ db with scripts }.note c).applyRows c := by
  have hobstacle : ∀ scripts, ({ db with scripts } : Database).obstacle? c = db.obstacle? c := by
    intro scripts
    cases c <;> rfl
  have hreadable : ∀ scripts, ({ db with scripts }.note c).unreadable? c.table = none := by
    intro scripts
    simp [unreadable?, note, hdb, Fields.get?]
  unfold perform
  cases trigger c db.scripts with
  | error e => exact ⟨db.scripts, .inl ⟨e, .inl rfl⟩⟩
  | ok triggered =>
    obtain ⟨fault, scripts⟩ := triggered
    refine ⟨scripts, ?_⟩
    cases fault with
    | some e => exact .inl ⟨e, .inr rfl⟩
    | none =>
      simp only [hobstacle, apply, hreadable]
      cases db.obstacle? c with
      | error e => exact .inl ⟨e, .inl rfl⟩
      | ok violation =>
        cases violation with
        | some e => exact .inl ⟨.rejected e, .inr rfl⟩
        | none => exact .inr ⟨rfl, rfl⟩

/-- A query leaves all rows as they are, or has its effect on its table and none on the others. -/
theorem rows_perform_cases (hdb : db.unreadable = []) (hunique : db.unique = true) (c : Call) :
    (∀ table, (db.perform c).2.rows table = db.rows table) ∨
      ∀ table, (db.perform c).2.rows table =
        if table = c.table then effect db.orphans (db.rows table) c else db.rows table := by
  obtain ⟨scripts, ⟨e, he | he⟩ | ⟨hobstacle, he⟩⟩ := perform_cases hdb c
  · exact .inl fun _ => by rw [he]; rfl
  · exact .inl fun _ => by rw [he]; rfl
  refine .inr fun table => ?_
  have hrows : ∀ other, ({ db with scripts }.note c).rows other = db.rows other := fun _ => rfl
  rw [he]
  cases c with
  | select t filters order => simp [applyRows, effect, hrows]
  | insert t row =>
    have hfree : refuses db.orphans (db.rows t) t row = false :=
      refuses_of_violation? hdb hunique hobstacle
    by_cases ht : table = t
    · simp [applyRows, effect, Call.table, hrows, ht, hfree]
    · simp [applyRows, Call.table, hrows, ht]
  | update t patch filters =>
    by_cases ht : table = t <;> simp [applyRows, effect, Call.table, hrows, ht]
  | delete t filters =>
    by_cases ht : table = t <;> simp [applyRows, effect, Call.table, hrows, ht]

/-- No query changes that tables hold rows, or the constraint on seats. -/
lemma perform_keeps (hdb : db.unreadable = []) (c : Call) :
    (db.perform c).2.unreadable = [] ∧ (db.perform c).2.unique = db.unique := by
  obtain ⟨scripts, ⟨e, he | he⟩ | ⟨-, he⟩⟩ := perform_cases hdb c
  · rw [he]
    exact ⟨hdb, rfl⟩
  · rw [he]
    exact ⟨hdb, rfl⟩
  · rw [he]
    cases c <;> exact ⟨hdb, rfl⟩

end Database

/-- A query within a scope. -/
def Call.IsWithin (x : Scope) : Call → Prop
  | .select .. => True
  | .insert table row =>
    table = Table.stageAssignments ∨ table = Table.eventLog ∨
      table = Table.notifications ∧ ∀ n, x.sends (Database.identified table n row)
  | .update table patch filters =>
    table = Table.submissions ∧ (patch.map (·.1)).Nodup ∧
      patch.map (·.1) ⊆ Table.datedColumns ∧
      ∀ row, meets filters row = true → x.dates (row.label "id")
  | .delete table filters =>
    table = Table.notifications ∧ ∀ row other : Row, row.IsMarked →
      meets filters other = true → Value.alikeRows row other = true → x.withdraws row

namespace Database

variable {x : Scope} {db db' : Database}

/-- The row of a submission to which a patch of its dates is applied. -/
lemma mayDate_patched {patch : Row} {filters : List Filter}
    (hpatch : (Call.update Table.submissions patch filters).IsWithin x) (row : Row) :
    x.MayDate row (if meets filters row then row.merge patch else row) := by
  obtain ⟨-, hnames, hcolumns, hdates⟩ := hpatch
  by_cases hmeets : meets filters row = true
  · rw [if_pos hmeets]
    refine ⟨fun hx => absurd (hdates row hmeets) hx, fun column hcolumn => ?_⟩
    have hnone : patch.get? column = none := by
      rw [Fields.get?, Option.map_eq_none_iff, List.find?_eq_none]
      intro f hf hname
      refine hcolumn (hcolumns (List.mem_map.2 ⟨f, hf, ?_⟩))
      simpa using hname
    rw [Fields.get?_merge row hnames, hnone, Option.none_or]
  · rw [if_neg hmeets]
    exact ⟨fun _ => rfl, fun _ _ => rfl⟩

/-- What a query within a scope makes of the rows of its table stays within the scope. -/
lemma within_effect {c : Call} (hc : c.IsWithin x) (hdb : db.IsTidy)
    (hrows : ∀ table, db'.rows table =
      if table = c.table then effect db.orphans (db.rows table) c else db.rows table) :
    Within x db db' := by
  have hown : db'.rows c.table = effect db.orphans (db.rows c.table) c := by simp [hrows]
  have hothers : ∀ table ≠ c.table, db'.rows table = db.rows table := by
    intro table htable
    rw [hrows, if_neg htable]
  cases c with
  | select t filters order =>
    refine within_of_rows_eq x fun table => ?_
    rw [hrows]
    simp [effect]
  | insert t row =>
    rw [Call.table] at hown hothers
    have hprefix : db.rows t <+: db'.rows t := by
      rw [hown, effect]
      split
      · exact List.prefix_rfl
      · exact List.prefix_append _ _
    have ht : t ∈ Table.written := by
      rcases hc with rfl | rfl | ⟨rfl, -⟩ <;> decide
    refine within_of_table ht hothers (fun _ => hprefix) ?_ ?_
    · rintro rfl
      rcases hc with h | h | ⟨h, -⟩ <;> exact absurd h (by decide)
    · rintro rfl
      rw [hown, effect]
      split
      · exact ⟨fun _ => true, [], fun _ _ _ => rfl, by simp, by simp⟩
      · refine ⟨fun _ => true, [_], fun _ _ _ => rfl, fun row' hrow' => ?_, by simp; rfl⟩
        rcases hc with h | h | ⟨-, hsends⟩
        · exact absurd h (by decide)
        · exact absurd h (by decide)
        · rw [List.mem_singleton.1 hrow']
          exact hsends _
  | update t patch filters =>
    obtain rfl : t = Table.submissions := hc.1
    rw [Call.table] at hown hothers
    refine within_of_table (by decide) hothers (fun ht => absurd ht (by decide)) (fun _ => ?_)
      fun ht => absurd ht (by decide)
    exact ⟨_, mayDate_patched hc, hown⟩
  | delete t filters =>
    obtain ⟨rfl, hwithdraws⟩ := hc
    rw [Call.table] at hown hothers
    refine within_of_table (by decide) hothers (fun ht => absurd ht (by decide))
      (fun ht => absurd ht (by decide)) fun _ => ?_
    refine ⟨_, [], fun row hrow hx => ?_, by simp, by rw [hown, List.append_nil]; rfl⟩
    rw [Bool.not_eq_true', List.any_eq_false]
    intro other hother halike
    exact hx (hwithdraws row other (hdb.notifications row hrow) (List.mem_filter.1 hother).2 halike)

lemma Within.notifications_marked (h : Within x db db') (hdb : db.IsTidy)
    (hx : ∀ row, x.sends row → row.IsMarked) :
    ∀ row ∈ db'.rows Table.notifications, row.IsMarked := by
  obtain ⟨keep, new, -, hnew, hrows⟩ := h.notifications
  intro row hrow
  rw [hrows] at hrow
  rcases List.mem_append.1 hrow with hrow | hrow
  · exact hdb.notifications row (List.mem_filter.1 hrow).1
  · exact hx row (hnew row hrow)

/-- The insert of an assignment does not take a seat twice, and nothing else takes seats. -/
lemma nodup_seats_effect {c : Call} (hc : c.IsWithin x) (hdb : db.IsTidy)
    (ht : Table.stageAssignments = c.table) :
    (seats (effect db.orphans (db.rows Table.stageAssignments) c)).Nodup := by
  cases c with
  | select t filters order => exact hdb.seats
  | insert t row =>
    obtain rfl : Table.stageAssignments = t := ht
    rw [effect_insert_assignment]
    exact nodup_seats_enterOne hdb.seats row
  | update t patch filters => exact absurd (ht.trans hc.1) (by decide)
  | delete t filters => exact absurd (ht.trans hc.1) (by decide)

/-- After a query within a scope the database is as tidy as before, and only what is in scope has
changed. -/
theorem perform_within {c : Call} (hc : c.IsWithin x) (hx : ∀ row, x.sends row → row.IsMarked)
    (hdb : db.IsTidy) : (db.perform c).2.IsTidy ∧ Within x db (db.perform c).2 := by
  obtain ⟨hunreadable, hunique⟩ := perform_keeps hdb.unreadable c
  rcases rows_perform_cases hdb.unreadable hdb.unique c with hrows | hrows
  · have hwithin : Within x db (db.perform c).2 := within_of_rows_eq x hrows
    refine ⟨⟨hunreadable, hunique.trans hdb.unique, ?_, hwithin.notifications_marked hdb hx⟩,
      hwithin⟩
    rw [hrows]
    exact hdb.seats
  · have hwithin : Within x db (db.perform c).2 := within_effect hc hdb hrows
    refine ⟨⟨hunreadable, hunique.trans hdb.unique, ?_, hwithin.notifications_marked hdb hx⟩,
      hwithin⟩
    rw [hrows]
    split
    · next ht => exact nodup_seats_effect hc hdb ht
    · exact hdb.seats

/-- A query that fails for a reason of its own is noted, and changes nothing. -/
lemma note_within (x : Scope) (c : Call) (hdb : db.IsTidy) :
    (db.note c).IsTidy ∧ Within x db (db.note c) :=
  ⟨⟨hdb.unreadable, hdb.unique, hdb.seats, hdb.notifications⟩, within_of_rows_eq x fun _ => rfl⟩

end Database

/-! ## Sessions -/

/-- The runs of a session on a database in which any query may fail without effect, for any
reason: the result and the database that they end with. -/
inductive Session.Runs {α : Type} : Session α → Database → Except Fault α → Database → Prop
  | done (a : α) (db : Database) : Runs (.done a) db (.ok a) db
  | fault (e : Fault) (db : Database) : Runs (.fault e) db (.error e) db
  | performed {c : Call} {next : Except CallFault c.Answer → Session α} {db db' : Database}
      {r : Except Fault α} (rest : Runs (next (db.perform c).1) (db.perform c).2 r db') :
      Runs (.ask c next) db r db'
  | failed {c : Call} {next : Except CallFault c.Answer → Session α} {db db' : Database}
      {r : Except Fault α} (f : CallFault) (rest : Runs (next (.error f)) (db.note c) r db') :
      Runs (.ask c next) db r db'

namespace Session

open Database

variable {α : Type} {s : Session α} {db db' : Database} {r : Except Fault α} {x : Scope}

/-- The run in which every query is performed. -/
lemma runs_run (s : Session α) (db : Database) : s.Runs db (s.run db).1 (s.run db).2 := by
  induction s generalizing db with
  | done a => exact .done a db
  | fault e => exact .fault e db
  | ask c next ih => exact .performed (ih _ _)

/-- A session whose queries are within a scope changes nothing outside of it, however it ends. -/
theorem Runs.within (h : s.Runs db r db') (hs : s.Asks (Call.IsWithin x))
    (hx : ∀ row, x.sends row → row.IsMarked) (hdb : db.IsTidy) :
    db'.IsTidy ∧ Within x db db' := by
  induction h with
  | done a db => exact ⟨hdb, within_of_rows_eq x fun _ => rfl⟩
  | fault e db => exact ⟨hdb, within_of_rows_eq x fun _ => rfl⟩
  | performed _ ih =>
    obtain ⟨hmid, hstep⟩ := perform_within hs.1 hx hdb
    obtain ⟨hend, hrest⟩ := ih (hs.2 _) hmid
    exact ⟨hend, hstep.trans hrest⟩
  | failed f _ ih =>
    obtain ⟨hmid, hstep⟩ := note_within x _ hdb
    obtain ⟨hend, hrest⟩ := ih (hs.2 _) hmid
    exact ⟨hend, hstep.trans hrest⟩

end Session
end EditorialDesk
