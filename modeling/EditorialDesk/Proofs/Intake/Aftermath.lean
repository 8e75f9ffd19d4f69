import EditorialDesk.Proofs.Intake.Account
import Mathlib.Data.List.Induction

/-!
# What a run leaves behind

The account of a run is read table by table. The assignments get the rows of those trials
that found a free seat, the log gets one entry for each of these. Where the run was alone,
the assignments in the end are the old ones and those wished for, in the order of the
wishes, each seat once; what was carried over plays no part.
-/
namespace EditorialDesk.Intake

open Database Store

variable {now : Calendar.Moment} {base : Database} {logs : Bool} {s : Submission}
variable {o : Outcome} {ds : List Deed} {t u : Database}

/-- The row that a trial has stored as an assignment. -/
def Trial.stored? (now : Calendar.Moment) (s : Submission) (x : Trial) : Option Row :=
  x.place.map (identified Table.stageAssignments · (x.wish.row now s))

/-- The row that a trial has stored in the log. -/
def Trial.logged? (now : Calendar.Moment) (logs : Bool) (s : Submission) (x : Trial) :
    Option Row :=
  if x.place.isSome && logs then
    some (identified Table.eventLog x.line (eventRow now (x.event s)))
  else none

namespace Trial

/-- What is gathered from the deeds of a trial: from its enrolment, and from the log if there is an
entry. -/
lemma filterMap_deeds {α : Type} (f : Deed → Option α) (x : Trial) :
    (x.deeds now logs s).filterMap f =
      (f (.enrolls now (x.wish.enrollment s) x.place)).toList ++
        if x.place.isSome && logs then (Deed.logs now (x.event s) x.line).filterMap f else [] := by
  unfold deeds
  cases hf : f (.enrolls now (x.wish.enrollment s) x.place) with
  | none => split <;> simp [hf]
  | some a => split <;> simp [hf]

/-- A trial asks for one row. -/
lemma entries (x : Trial) :
    (x.deeds now logs s).filterMap Deed.asked? = [x.wish.row now s] := by
  have henrol : (Deed.enrolls now (x.wish.enrollment s) x.place).asked? =
      some (x.wish.row now s) := by
    simp [Deed.asked?, Deed.enrolls, Wish.row]
  have hlogs : (Deed.logs now (x.event s) x.line).filterMap Deed.asked? = [] := rfl
  rw [filterMap_deeds, henrol, hlogs, ite_self]
  rfl

lemma entries_flatMap (ts : List Trial) :
    (ts.flatMap (·.deeds now logs s)).filterMap Deed.asked? =
      (ts.map (·.wish)).map (·.row now s) := by
  rw [List.filterMap_flatMap, List.map_map]
  simp [entries, ← List.map_eq_flatMap]

lemma storedIn_assignments (x : Trial) :
    (x.deeds now logs s).filterMap (Deed.storedIn? Table.stageAssignments) =
      (x.stored? now s).toList := by
  have henrol : (Deed.enrolls now (x.wish.enrollment s) x.place).storedIn?
      Table.stageAssignments = x.stored? now s := if_pos rfl
  have hlogs : (Deed.logs now (x.event s) x.line).filterMap
      (Deed.storedIn? Table.stageAssignments) = [] := rfl
  rw [filterMap_deeds, henrol, hlogs, ite_self, List.append_nil]

lemma storedIn_log (x : Trial) :
    (x.deeds now logs s).filterMap (Deed.storedIn? Table.eventLog) =
      (x.logged? now logs s).toList := by
  have henrol : (Deed.enrolls now (x.wish.enrollment s) x.place).storedIn? Table.eventLog =
      none := if_neg (show Table.stageAssignments ≠ Table.eventLog by decide)
  have hlogs : (Deed.logs now (x.event s) x.line).filterMap (Deed.storedIn? Table.eventLog) =
      [identified Table.eventLog x.line (eventRow now (x.event s))] := rfl
  rw [filterMap_deeds, henrol, hlogs]
  unfold logged?
  split <;> rfl

end Trial

namespace Account

/-- The trials in order. -/
def trials (a : Account now base logs s o ds u) : List Trial := a.first ++ a.carried ++ a.last

lemma filterMap_deeds {α : Type} (a : Account now base logs s o ds u) {f : Deed → Option α}
    (hnotify : ∀ n place, f (.notifies now n place) = none)
    (hwithdraw : ∀ types target id, f (.withdraws types target id) = none) :
    ds.filterMap f = a.trials.flatMap fun x => (x.deeds now logs s).filterMap f := by
  have hsent : a.sent.filterMap f = [] := by
    rw [List.filterMap_eq_nil_iff]
    intro d hd
    obtain ⟨userId, place, rfl⟩ := eq_notifies_of_mem a.sent_eq hd
    exact hnotify _ place
  refine (congrArg (List.filterMap f) a.deeds).trans ?_
  rw [List.filterMap_append, List.filterMap_cons, hwithdraw]
  simp [hsent, hwithdraw, List.filterMap_flatMap, trials]

lemma entries (a : Account now base logs s o ds u) :
    ds.filterMap Deed.asked? = (a.trials.map (·.wish)).map (·.row now s) := by
  rw [a.filterMap_deeds (fun _ _ => rfl) (fun _ _ _ => rfl), ← List.filterMap_flatMap]
  exact Trial.entries_flatMap _

lemma carried_storedIn (a : Account now base logs s o ds u) :
    (a.carried.flatMap (·.deeds now logs s)).filterMap (Deed.storedIn? Table.stageAssignments) =
      [] := by
  rw [List.filterMap_flatMap, List.flatMap_eq_nil_iff]
  intro x hx
  rw [Trial.storedIn_assignments, Trial.stored?, a.carried_place x hx]
  rfl

lemma storedIn_assignments (a : Account now base logs s o ds u) :
    ds.filterMap (Deed.storedIn? Table.stageAssignments) =
      a.trials.filterMap (·.stored? now s) := by
  rw [a.filterMap_deeds (fun _ _ => rfl) (fun _ _ _ => rfl)]
  simp [Trial.storedIn_assignments, ← List.filterMap_eq_flatMap_toList]

lemma storedIn_log (a : Account now base logs s o ds u) :
    ds.filterMap (Deed.storedIn? Table.eventLog) = a.trials.filterMap (·.logged? now logs s) := by
  rw [a.filterMap_deeds (fun _ _ => rfl) (fun _ _ _ => rfl)]
  simp [Trial.storedIn_log, ← List.filterMap_eq_flatMap_toList]

end Account

/-- The session of a run that begins on a sound database ends with an outcome, and there is an
account of what it did. -/
theorem runSession_meets (ht : t.Sound) (hnow : now.offset = some .utc) (logs : Bool)
    (s : Submission) (submitter : Value) :
    (sessionOf (.shows now) (run logs s submitter)).Meets overlapping t
      fun o ds u => Nonempty (Account now t logs s o ds u) :=
  sessionOf_meets ht hnow (.refl t) (run_meets submitter t)

theorem run_alone (ht : t.Sound) (hnow : now.offset = some .utc) (logs : Bool) (s : Submission)
    (submitter : Value) : ∃ o ds u,
      (sessionOf (.shows now) (run logs s submitter)).run t = (.ok o, u) ∧
        Nonempty (Account now t logs s o ds u) ∧ Leads t ds u :=
  run_of_meets (runSession_meets ht hnow logs s submitter)

lemma enter_distinctOn (rows : List Row) (ws : List Wish) :
    enter rows ((distinctOn Wish.key ws).map (·.row now s)) =
      enter rows (ws.map (·.row now s)) := by
  induction ws using List.reverseRecOn with
  | nil => rfl
  | append_singleton ws w ih =>
    rw [distinctOn_concat, List.map_append, enter_append, ← ih]
    split
    · next hw =>
      obtain ⟨w', hw', hkey⟩ := List.mem_map.1 (mem_map_distinctOn.2 hw)
      have hseat : w'.seat s = w.seat s := Wish.seat_eq_iff.2 hkey
      rw [eq_comm, enter_of_forall_mem]
      intro row hrow
      obtain rfl := List.mem_singleton.1 hrow
      rw [mem_seats_enter]
      refine .inr (List.mem_map.2 ⟨w'.row now s, List.mem_map_of_mem hw', ?_⟩)
      rw [Wish.seatLabels_row, Wish.seatLabels_row, hseat]
    · rw [List.map_append, enter_append]

/-- The wishes of a run in their order, without what is carried over. -/
def roster (base : Database) (s : Submission) : List Wish :=
  singletonWishes base s ++ subEditorWishes base s

/-- After a run that was alone the assignments are the old ones, and those wished for as far as
their seats were free. -/
theorem Account.assignments_eq (a : Account now base logs s o ds u) (h : Leads t ds u)
    (ht : t.Plain) :
    u.rows Table.stageAssignments =
      enter (t.rows Table.stageAssignments) ((roster base s).map (·.row now s)) := by
  have hends := h.assignments_eq ht
  rw [a.entries] at hends
  have hsplit := a.deeds
  rw [List.flatMap_append, List.flatMap_append, List.append_assoc, List.append_assoc] at hsplit
  rw [hsplit] at h
  obtain ⟨t₁, h₁, hrest⟩ := h.split
  obtain ⟨t₂, h₂, -⟩ := hrest.split
  have hplain := (h₁.later ht).plain ht
  have hfirst : t₁.rows Table.stageAssignments =
      enter (t.rows Table.stageAssignments) ((singletonWishes base s).map (·.row now s)) := by
    rw [h₁.assignments_eq ht, Trial.entries_flatMap, a.first_wishes, enter_distinctOn]
  have hcarried : t₂.rows Table.stageAssignments = t₁.rows Table.stageAssignments := by
    rw [h₂.rows_append hplain (by decide) (by decide), a.carried_storedIn, List.append_nil]
  have hmiddle : t₂.rows Table.stageAssignments = enter (t.rows Table.stageAssignments)
      ((singletonWishes base s ++ a.extra).map (·.row now s)) := by
    have h₁₂ := h₁.trans h₂
    rw [← List.flatMap_append] at h₁₂
    rw [h₁₂.assignments_eq ht, Trial.entries_flatMap, a.carried_wishes, enter_distinctOn]
  calc u.rows Table.stageAssignments
      = enter (t.rows Table.stageAssignments)
          ((distinctOn Wish.key (singletonWishes base s ++ a.extra ++ subEditorWishes base s)).map
            (·.row now s)) := by rw [hends, trials, a.wishes]
    _ = enter (t₂.rows Table.stageAssignments) ((subEditorWishes base s).map (·.row now s)) := by
        rw [enter_distinctOn, List.map_append, enter_append, ← hmiddle]
    _ = enter (t.rows Table.stageAssignments) ((roster base s).map (·.row now s)) := by
        rw [hcarried, hfirst, ← enter_append, ← List.map_append, roster]

/-- What a run that was alone has stored as assignments is what was to be entered. -/
lemma Account.storedIn_eq_added (a : Account now base logs s o ds u) (h : Leads t ds u)
    (ht : t.Plain) :
    ds.filterMap (Deed.storedIn? Table.stageAssignments) =
      added (t.rows Table.stageAssignments) ((roster base s).map (·.row now s)) := by
  have happend : u.rows Table.stageAssignments = t.rows Table.stageAssignments ++
      ds.filterMap (Deed.storedIn? Table.stageAssignments) :=
    h.rows_append ht (by decide) (by decide)
  have hentered := a.assignments_eq h ht
  rw [enter_eq_append] at hentered
  exact List.append_cancel_left (happend.symm.trans hentered)

end EditorialDesk.Intake
