import EditorialDesk.Proofs.Database.Admission
import EditorialDesk.Proofs.Database.Firm
import EditorialDesk.Proofs.Database.Outage
import EditorialDesk.Submission

/-!
# Assignments and their entries in the log

An assignment and its entry in the log are stored by two queries. Where every assignment is
followed by its entry at once, and nothing else is entered, the log agrees with the
assignments wherever the queries break off, but for the one entry that was to come next.
-/
namespace EditorialDesk

open Database

/-- The tables that have to agree. -/
def Table.accounted : List String := [stageAssignments, eventLog]

/-- The labels of the seat that an entry of the log says to be assigned. -/
def Fields.assigned? (entry : Row) : Option (List String) :=
  if entry.label "event_type" = EventType.participantAssigned.word then
    match entry.get "params" with
    | .object params =>
      some [entry.label "submission_id", Fields.label params "user_group_id",
        Fields.label params "user_id"]
    | _ => none
  else none

@[simp] lemma assigned?_identified (table : String) (n : Nat) (entry : Row) :
    Fields.assigned? (identified table n entry) = Fields.assigned? entry := by
  unfold Fields.assigned?
  rw [label_identified (by decide), label_identified (by decide), Fields.get, Fields.get,
    get?_identified (by decide)]

/-- The entry that a query is to add to the log. -/
def Call.entry? : Call → Option Row
  | .insert table entry => if table = Table.eventLog then some entry else none
  | _ => none

lemma Call.LeavesAlone.entry?_eq_none {c : Call} (h : c.LeavesAlone (· ∈ Table.accounted)) :
    c.entry? = none := by
  cases c with
  | insert table entry =>
    have htable : table ∉ Table.accounted := h.resolve_left (by simp [Call.kind])
    refine if_neg fun heq => htable ?_
    rw [heq]
    decide
  | _ => rfl

namespace Database

/-- From one state to another assignments to a submission have been added, of seats that were free
and each of another seat, and entries in the log. These are of the assignments, each of another one;
only the `lost` ones have not been made. -/
structure Booked (submissionId : String) (db db' : Database) (added logged lost : List Row) :
    Prop where
  assignments : db'.rows Table.stageAssignments = db.rows Table.stageAssignments ++ added
  entries : db'.rows Table.eventLog = db.rows Table.eventLog ++ logged
  own : ∀ row ∈ added, row.label "submission_id" = submissionId
  free : ∀ x ∈ seats added, x ∉ seats (db.rows Table.stageAssignments)
  once : (seats added).Nodup
  agree : ((logged ++ lost).map Fields.assigned?).Perm ((seats added).map some)

variable {submissionId : String} {db mid db' : Database}
variable {added added' logged logged' lost lost' : List Row}

lemma booked_of_spares (submissionId : String) (h : Spares (· ∈ Table.accounted) db db') :
    Booked submissionId db db' [] [] [] where
  assignments := by rw [h.rows _ (by decide), List.append_nil]
  entries := by rw [h.rows _ (by decide), List.append_nil]
  own _ hrow := absurd hrow List.not_mem_nil
  free _ hx := absurd hx List.not_mem_nil
  once := .nil
  agree := .refl _

lemma Booked.trans (h : Booked submissionId db mid added logged lost)
    (h' : Booked submissionId mid db' added' logged' lost') :
    Booked submissionId db db' (added ++ added') (logged ++ logged') (lost ++ lost') where
  assignments := by rw [h'.assignments, h.assignments, List.append_assoc]
  entries := by rw [h'.entries, h.entries, List.append_assoc]
  own row hrow := (List.mem_append.1 hrow).elim (h.own row) (h'.own row)
  free x hx := by
    rw [seats_append] at hx
    rcases List.mem_append.1 hx with hx | hx
    · exact h.free x hx
    · refine fun hold => h'.free x hx ?_
      rw [h.assignments, seats_append]
      exact List.mem_append_left _ hold
  once := by
    rw [seats_append, List.nodup_append']
    refine ⟨h.once, h'.once, fun x hx hx' => h'.free x hx' ?_⟩
    rw [h.assignments, seats_append]
    exact List.mem_append_right _ hx
  agree := by
    have hswap : (logged ++ logged' ++ (lost ++ lost')).Perm
        ((logged ++ lost) ++ (logged' ++ lost')) := by
      rw [List.append_assoc, List.append_assoc]
      refine List.Perm.append_left logged ?_
      rw [← List.append_assoc, ← List.append_assoc]
      exact List.perm_append_comm.append_right lost'
    have hboth := h.agree.append h'.agree
    rw [← List.map_append, ← List.map_append, ← seats_append] at hboth
    exact (hswap.map _).trans hboth

/-- An assignment has exactly one entry, or none if that is the lost one. -/
theorem Booked.count_eq (h : Booked submissionId db db' added logged lost) {row : Row}
    (hrow : row ∈ added) :
    (logged.map Fields.assigned?).count (some (seatLabels row)) =
      if some (seatLabels row) ∈ lost.map Fields.assigned? then 0 else 1 := by
  have hmem : some (seatLabels row) ∈ (seats added).map some :=
    List.mem_map_of_mem (List.mem_map_of_mem hrow)
  have hone : ((seats added).map some).count (some (seatLabels row)) = 1 :=
    List.count_eq_one_of_mem (h.once.map fun _ _ => Option.some.inj) hmem
  rw [← h.agree.count_eq, List.map_append, List.count_append] at hone
  split
  · next hlost =>
    have hpos := List.count_pos_iff.2 hlost
    omega
  · next hlost =>
    have hzero := List.count_eq_zero_of_not_mem hlost
    omega

/-- Queries from a state on: each assignment that is stored is to the submission, and is followed by
its entry in the log, and no other entries are made. -/
inductive Entered (submissionId : String) : Database → List Call → Prop
  | nil (db : Database) : Entered submissionId db []
  | other {db : Database} {c : Call} {cs : List Call} (hc : c.LeavesAlone (· ∈ Table.accounted))
      (rest : Entered submissionId (db.perform c).2 cs) : Entered submissionId db (c :: cs)
  | refused {db : Database} {row : Row} {cs : List Call}
      (hrow : seatLabels row ∈ seats (db.rows Table.stageAssignments))
      (rest : Entered submissionId (db.perform (.insert Table.stageAssignments row)).2 cs) :
      Entered submissionId db (.insert Table.stageAssignments row :: cs)
  | entered {db : Database} {row entry : Row} {cs : List Call}
      (hrow : seatLabels row ∉ seats (db.rows Table.stageAssignments))
      (hown : row.label "submission_id" = submissionId)
      (hentry : entry.assigned? = some (seatLabels row))
      (rest : Entered submissionId ((db.perform (.insert Table.stageAssignments row)).2.perform
        (.insert Table.eventLog entry)).2 cs) :
      Entered submissionId db
        (.insert Table.stageAssignments row :: .insert Table.eventLog entry :: cs)

/-- Queries that begin with the entry of an assignment that was stored before them. -/
def EntersNext (submissionId : String) (seat : List String) (db : Database) (cs : List Call) :
    Prop :=
  ∃ entry rest, cs = .insert Table.eventLog entry :: rest ∧ entry.assigned? = some seat ∧
    Entered submissionId (db.perform (.insert Table.eventLog entry)).2 rest

lemma Entered.of_entersNext {row : Row} {cs : List Call}
    (hrow : seatLabels row ∉ seats (db.rows Table.stageAssignments))
    (hown : row.label "submission_id" = submissionId)
    (h : EntersNext submissionId (seatLabels row)
      (db.perform (.insert Table.stageAssignments row)).2 cs) :
    Entered submissionId db (.insert Table.stageAssignments row :: cs) := by
  obtain ⟨entry, rest, rfl, hentry, hrest⟩ := h
  exact .entered hrow hown hentry hrest

lemma isNamed_assignment (row : Row) : IsNamed (.insert Table.stageAssignments row) :=
  fun h => absurd h (by decide)

lemma isNamed_entry (entry : Row) : IsNamed (.insert Table.eventLog entry) :=
  fun h => absurd h (by decide)

lemma Plain.spares_assignment (h : db.Plain) (row : Row) :
    Spares (· ≠ Table.stageAssignments) db (db.perform (.insert Table.stageAssignments row)).2 :=
  h.firm.perform_spares (.inr (not_not.2 rfl))

lemma Plain.spares_entry (h : db.Plain) (entry : Row) :
    Spares (· ≠ Table.eventLog) db (db.perform (.insert Table.eventLog entry)).2 :=
  h.firm.perform_spares (.inr (not_not.2 rfl))

lemma Plain.assignments_perform (h : db.Plain) (row : Row) :
    (db.perform (.insert Table.stageAssignments row)).2.rows Table.stageAssignments =
      enterOne (db.rows Table.stageAssignments) row := by
  rw [h.rows_perform (isNamed_assignment row)]
  simp only [Call.table, if_true, effect_insert_assignment]

lemma Plain.log_perform (h : db.Plain) (entry : Row) :
    (db.perform (.insert Table.eventLog entry)).2.rows Table.eventLog =
      db.rows Table.eventLog ++
        [identified Table.eventLog (db.rows Table.eventLog).length entry] := by
  have hne : (Table.eventLog == Table.stageAssignments) = false := by decide
  have hne' : (Table.eventLog == Table.notifications) = false := by decide
  rw [h.rows_perform (isNamed_entry entry)]
  simp [Call.table, effect, refuses, hne, hne']

/-- An assignment is stored, and its entry has still to be made. -/
lemma Plain.booked_assignment (h : db.Plain) {row entry : Row}
    (hrow : seatLabels row ∉ seats (db.rows Table.stageAssignments))
    (hown : row.label "submission_id" = submissionId)
    (hentry : entry.assigned? = some (seatLabels row)) :
    Booked submissionId db (db.perform (.insert Table.stageAssignments row)).2
      [identified Table.stageAssignments (db.rows Table.stageAssignments).length row] []
      [entry] where
  assignments := by rw [h.assignments_perform, enterOne, if_neg hrow]
  entries := by rw [(h.spares_assignment row).rows _ (by decide), List.append_nil]
  own other hother := by
    rw [List.mem_singleton.1 hother, label_identified (by decide)]
    exact hown
  free x hx := by
    obtain rfl : x = seatLabels row := by simpa [seats] using hx
    exact hrow
  once := List.nodup_singleton _
  agree := by simp [seats, hentry]

lemma Plain.booked_entered (h : db.Plain) {row entry : Row}
    (hrow : seatLabels row ∉ seats (db.rows Table.stageAssignments))
    (hown : row.label "submission_id" = submissionId)
    (hentry : entry.assigned? = some (seatLabels row)) :
    Booked submissionId db ((db.perform (.insert Table.stageAssignments row)).2.perform
        (.insert Table.eventLog entry)).2
      [identified Table.stageAssignments (db.rows Table.stageAssignments).length row]
      [identified Table.eventLog (db.rows Table.eventLog).length entry] [] := by
  have hfirst := h.spares_assignment row
  have hplain := hfirst.plain h
  have hbooked := h.booked_assignment hrow hown hentry
  refine ⟨?_, ?_, hbooked.own, hbooked.free, hbooked.once, by simp [seats, hentry]⟩
  · rw [(hplain.spares_entry entry).rows _ (by decide), hbooked.assignments]
  · rw [hplain.log_perform, hfirst.rows Table.eventLog (by decide)]

lemma Plain.spares_refused (h : db.Plain) {row : Row}
    (hrow : seatLabels row ∈ seats (db.rows Table.stageAssignments)) :
    Spares (· ∈ Table.accounted) db (db.perform (.insert Table.stageAssignments row)).2 := by
  have hfirst := h.spares_assignment row
  refine ⟨hfirst.frame, fun table _ => ?_⟩
  by_cases htable : table = Table.stageAssignments
  · rw [htable, h.assignments_perform, enterOne, if_pos hrow]
  · exact hfirst.rows table htable

/-- Wherever the queries break off, the log lacks at most the entry that was to come next. -/
theorem Entered.booked {cs : List Call} (h : Entered submissionId db cs) (hdb : db.Plain)
    (k : Nat) : ∃ added logged, Booked submissionId db (db.performed (cs.take k)) added logged
      (cs[k]?.bind Call.entry?).toList := by
  induction h generalizing k with
  | nil db =>
    rw [List.take_nil]
    exact ⟨[], [], booked_of_spares _ (.refl _ db)⟩
  | @other db c cs hc _ ih =>
    cases k with
    | zero =>
      refine ⟨[], [], ?_⟩
      rw [List.getElem?_cons_zero, Option.bind_some, hc.entry?_eq_none]
      exact booked_of_spares _ (.refl _ db)
    | succ k =>
      have hspares : Spares (· ∈ Table.accounted) db (db.perform c).2 :=
        hdb.firm.perform_spares hc
      obtain ⟨added, logged, hbooked⟩ := ih (hspares.plain hdb) k
      exact ⟨added, logged, (booked_of_spares _ hspares).trans hbooked⟩
  | @refused db row cs hrow _ ih =>
    cases k with
    | zero => exact ⟨[], [], booked_of_spares _ (.refl _ db)⟩
    | succ k =>
      have hspares := hdb.spares_refused hrow
      obtain ⟨added, logged, hbooked⟩ := ih (hspares.plain hdb) k
      exact ⟨added, logged, (booked_of_spares _ hspares).trans hbooked⟩
  | @entered db row entry cs hrow hown hentry _ ih =>
    rcases k with _ | _ | k
    · exact ⟨[], [], booked_of_spares _ (.refl _ db)⟩
    · exact ⟨_, _, hdb.booked_assignment hrow hown hentry⟩
    · have hplain := (hdb.spares_assignment row).plain hdb
      obtain ⟨added, logged, hbooked⟩ := ih ((hplain.spares_entry entry).plain hplain) k
      exact ⟨_, _, (hdb.booked_entered hrow hown hentry).trans hbooked⟩

/-- What leaves both tables alone may come first. -/
lemma Entered.append_watch {α : Type} {p : Session α} {cs : List Call}
    (hp : p.Asks (Call.LeavesAlone (· ∈ Table.accounted)))
    (h : Entered submissionId (p.watch none db).database cs) :
    Entered submissionId db ((p.watch none db).queries ++ cs) := by
  induction p generalizing db with
  | done a => exact h
  | fault e => exact h
  | ask c next ih => exact .other hp.1 (ih _ (hp.2 _) h)

lemma watch_plain {α : Type} {p : Session α} {kept : String → Prop} (hdb : db.Plain)
    (hp : p.Asks (Call.LeavesAlone kept)) : (p.watch none db).database.Plain := by
  have hwatch : (p.watch none db).database = (p.run db).2 :=
    congrArg Prod.snd (Session.watch_none p db)
  rw [hwatch]
  exact (Session.run_spares hdb.firm hp rfl).plain hdb

/-- A session that begins with queries that leave both tables alone. -/
theorem entered_bind {α β : Type} {p : Session α} {g : α → Session β} (hdb : db.Plain)
    (hp : p.Asks (Call.LeavesAlone (· ∈ Table.accounted)))
    (hg : ∀ a {mid : Database}, mid.Plain →
      Entered submissionId mid ((g a).watch none mid).queries) :
    Entered submissionId db ((p >>= g).watch none db).queries := by
  rw [Session.queries_bind]
  refine Entered.append_watch hp ?_
  unfold Watched.onwards
  split
  · next a _ => exact hg a (watch_plain hdb hp)
  · exact .nil _

end Database
end EditorialDesk
