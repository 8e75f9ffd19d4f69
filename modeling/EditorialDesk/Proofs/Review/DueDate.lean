import EditorialDesk.Proofs.Calendar.Conversion
import EditorialDesk.Proofs.Calendar.Order
import EditorialDesk.Review.View

/-!
# The due date that a review waits for

Whether a review is overdue and which due date is shown for it are found out separately,
and each time the due date is converted to the zone. Both come to the same day, so that a
review is shown as overdue exactly if the date in its details lies before today. A review
that waits for nothing any more is shown the same on every day and in every zone.
-/
namespace EditorialDesk.Review

open Calendar

lemma bind_eq_ok {α β : Type} {r : Except Fault α} {f : α → Except Fault β} {b : β} :
    (r >>= f) = .ok b ↔ ∃ a, r = .ok a ∧ f a = .ok b := by
  cases r <;> simp [bind, Except.bind]

lemma pure_eq_ok {α : Type} {a b : α} : (pure a : Except Fault α) = .ok b ↔ b = a :=
  ⟨fun h => (Except.ok.inj h).symm, fun h => h ▸ rfl⟩

lemma eq_ok_of_toOption {α : Type} {r : Except Fault α} {a : α} (h : r.toOption = some a) :
    r = .ok a := by
  cases r with
  | error e => cases h
  | ok b => exact congrArg Except.ok (Option.some.inj h)

namespace Assignment

/-- The review is still waited for: it is neither cancelled nor declined, and nothing has come. -/
structure Waits (a : Assignment) : Prop where
  cancelled : a.cancelled = false
  declined : a.declined = false
  received : a.dateReceived = none
  completed : a.dateCompleted = none
  acknowledged : a.dateAcknowledged = none

/-- The due date that counts: that of the response until there is one, then that of the review. -/
def due (a : Assignment) : Option Dated :=
  if a.dateConfirmed.isNone then a.dateResponseDue else a.dateDue

def dueHeading (a : Assignment) : String :=
  if a.dateConfirmed.isNone then "Response due: " else "Review due: "

/-- The status of a review that is waited for, as long as it is not overdue. -/
def openStatus (a : Assignment) : Status :=
  if a.dateConfirmed.isNone then .awaitingResponse else .accepted

def overdueStatus (a : Assignment) : Status :=
  if a.dateConfirmed.isNone then .responseOverdue else .reviewOverdue

/-- The assignment with other due dates. -/
def withDues (a : Assignment) (response review : Option Dated) : Assignment :=
  { a with dateResponseDue := response, dateDue := review }

variable {a : Assignment} {z : Zone} {today : Today}

/-- While a review is waited for, only its due date and the day matter. -/
lemma status_of_waits (ha : a.Waits) (z : Zone) (today : Today) : a.status z today = do
    let current ← today.date z
    let past ← isPast z a.due current
    return if past then a.overdueStatus else a.openStatus := by
  simp only [status, ha.cancelled, ha.declined, ha.received, ha.completed, ha.acknowledged,
    Option.isSome_none, Bool.false_eq_true, if_false, due, overdueStatus, openStatus]
  cases a.dateConfirmed <;> rfl

lemma status_eq_ok (ha : a.Waits) {s : Status} : a.status z today = .ok s ↔
    ∃ current, today.date z = .ok current ∧ ∃ past, isPast z a.due current = .ok past ∧
      s = if past then a.overdueStatus else a.openStatus := by
  simp only [status_of_waits ha, bind_eq_ok, pure_eq_ok]

/-- The status of a review that is waited for no more follows from what has come of it. -/
lemma status_of_not_waits (ha : ¬a.Waits) : ∃ s : Status,
    s ∈ [.cancelled, .declined, .thanked, .complete, .received] ∧
      ∀ z today response review, (a.withDues response review).status z today = .ok s := by
  by_cases hcancelled : a.cancelled = true
  · exact ⟨.cancelled, by decide, by simp [status, withDues, hcancelled]⟩
  by_cases hdeclined : a.declined = true
  · exact ⟨.declined, by decide, by simp [status, withDues, hcancelled, hdeclined]⟩
  by_cases hacknowledged : a.dateAcknowledged.isSome = true
  · exact ⟨.thanked, by decide, by simp [status, withDues, hcancelled, hdeclined, hacknowledged]⟩
  by_cases hcompleted : a.dateCompleted.isSome = true
  · exact ⟨.complete, by decide, by
      simp [status, withDues, hcancelled, hdeclined, hacknowledged, hcompleted]⟩
  by_cases hreceived : a.dateReceived.isSome = true
  · exact ⟨.received, by decide, by
      simp [status, withDues, hcancelled, hdeclined, hacknowledged, hcompleted, hreceived]⟩
  · simp only [Bool.not_eq_true, Option.isSome_eq_false_iff, Option.isNone_iff_eq_none] at *
    exact absurd ⟨hcancelled, hdeclined, hreceived, hcompleted, hacknowledged⟩ ha

lemma stateClass?_openStatus (a : Assignment) : a.openStatus.stateClass? = none := by
  unfold openStatus
  split <;> rfl

lemma stateClass?_overdueStatus (a : Assignment) :
    a.overdueStatus.stateClass? = some "overdue" := by
  unfold overdueStatus
  split <;> rfl

end Assignment

namespace Presenter

variable {p : Presenter} {a : Assignment} {z : Zone} {today : Today} {v : View}

lemma details_of_waits (p : Presenter) (a : Assignment) {s : Status}
    (hs : s = a.openStatus ∨ s = a.overdueStatus) :
    p.details a s = p.dueLine a.dueHeading a.due := by
  unfold Assignment.openStatus Assignment.overdueStatus at hs
  unfold Assignment.dueHeading Assignment.due
  split at hs <;> rcases hs with rfl | rfl <;> simp_all [details]

lemma present_eq_ok : p.present a = .ok v ↔
    ∃ status, a.status p.zone p.today = .ok status ∧
      ∃ details, p.details a status = .ok details ∧
        v = ⟨status, status.label, details, status.stateClass?, status.actions⟩ := by
  simp only [present, bind_eq_ok, pure_eq_ok]

/-- What is not waited for is shown without regard to due dates, zones and days. -/
lemma present_of_not_waits (ha : ¬a.Waits) (p p' : Presenter) (response review : Option Dated) :
    p'.present (a.withDues response review) = p.present a := by
  obtain ⟨s, hs, hstatus⟩ := Assignment.status_of_not_waits ha
  have hdetails : p'.details (a.withDues response review) s = p.details a s := by
    simp only [List.mem_cons, List.not_mem_nil, or_false] at hs
    rcases hs with rfl | rfl | rfl | rfl | rfl <;> rfl
  have hown : a.status p.zone p.today = .ok s := hstatus p.zone p.today a.dateResponseDue a.dateDue
  unfold present
  rw [hstatus, hown]
  exact congrArg (Except.map _) hdetails

lemma text_ne_empty (d : Date) : d.text ≠ "" := by
  intro h
  have hchars : d.civil.chars = [] := by
    rw [← String.toList_ofList (l := d.civil.chars)]
    exact congrArg String.toList h
  simp [Civil.chars] at hchars

/-- By default the line of a due date is the date on which it falls. -/
lemma dueLine_some {heading : String} {f : Dated} {line : Option String}
    (hp : p.write = dueText) (h : p.dueLine heading (some f) = .ok line) :
    ∃ date, p.zone.dateOf? f = some date ∧ line = some (heading ++ date.text) := by
  simp only [dueLine, hp] at h
  cases hdate : p.zone.dateOf? f with
  | none => simp [hdate, Fault.inCalendar, Except.map, bind, Except.bind] at h
  | some date =>
    simp [hdate, Fault.inCalendar, Except.map, bind, Except.bind, dueText, text_ne_empty, pure,
      Except.pure] at h
    exact ⟨date, rfl, h.symm⟩

end Presenter

/-- Whether a due date is past is told by the date on which it falls. -/
lemma isPast_some {z : Zone} {f : Dated} {current : Date} {past : Bool} :
    isPast z (some f) current = .ok past ↔
      ∃ date, z.dateOf? f = some date ∧ past = decide (date < current) := by
  unfold isPast
  dsimp only
  cases z.dateOf? f <;> simp [Fault.inCalendar, Except.map, eq_comm]

/-- Where due dates are written in the default way, a review that is waited for shows the date on
which its due date falls in the zone, and it is overdue exactly if that date is written lower than
today's. One that is not waited for is shown alike by everyone, whatever its due dates. -/
theorem present_agrees {z : Zone} {today : Today} {a : Assignment} {v : View}
    (h : (⟨z, today, dueText⟩ : Presenter).present a = .ok v) :
    (a.Waits → ∃ current, today.date z = .ok current ∧
      match a.due with
      | none => v.details = none ∧ v.status = a.openStatus ∧ v.stateClass = none
      | some f => ∃ date : Date, (∀ other, z.FallsOn f other ↔ other = date) ∧
          v.details = some (a.dueHeading ++ date.text) ∧
          v.status = (if date.text < current.text then a.overdueStatus else a.openStatus) ∧
          v.stateClass = if date.text < current.text then some "overdue" else none) ∧
    (¬a.Waits → ∀ (p : Presenter) (response review : Option Dated),
      p.present (a.withDues response review) = .ok v) := by
  refine ⟨fun ha => ?_, fun ha p response review => ?_⟩
  · obtain ⟨status, hstatus, details, hdetails, rfl⟩ := Presenter.present_eq_ok.1 h
    obtain ⟨current, hcurrent, past, hpast, hs⟩ := (Assignment.status_eq_ok ha).1 hstatus
    refine ⟨current, hcurrent, ?_⟩
    have hkind : status = a.openStatus ∨ status = a.overdueStatus := by
      cases past <;> simp [hs]
    rw [Presenter.details_of_waits _ a hkind] at hdetails
    cases hdue : a.due with
    | none =>
      rw [hdue] at hpast hdetails
      obtain rfl : false = past := Except.ok.inj hpast
      obtain rfl : none = details := Except.ok.inj hdetails
      subst hs
      exact ⟨rfl, rfl, a.stateClass?_openStatus⟩
    | some f =>
      rw [hdue] at hpast hdetails
      obtain ⟨date, hdate, rfl⟩ := isPast_some.1 hpast
      obtain ⟨date', hdate', hline⟩ := Presenter.dueLine_some rfl hdetails
      obtain rfl : date = date' := Option.some.inj (hdate.symm.trans hdate')
      have hfalls : z.FallsOn f date := Zone.fallsOn_of_dateOf? hdate
      refine ⟨date, fun other => ⟨hfalls.unique, fun heq => heq ▸ hfalls⟩, hline, ?_⟩
      simp only [decide_eq_true_iff, ← Date.text_lt_iff] at hs
      subst hs
      split
      · exact ⟨rfl, a.stateClass?_overdueStatus⟩
      · exact ⟨rfl, a.stateClass?_openStatus⟩
  · rw [Presenter.present_of_not_waits ha, h]

/-- A review due at half past two in the night of 3 March 2026 in UTC. -/
def nightReview : Assignment :=
  { id := "r-1", submissionId := "sub-1", stage := .externalReview, reviewerId := "u-1"
    recommendation := none, dateResponseDue := none
    dateDue := some (.moment ⟨⟨63908101800000000, by decide⟩, some .utc⟩)
    dateConfirmed := some (.day ⟨⟨0, by decide⟩⟩), dateReceived := none, dateCompleted := none
    dateAcknowledged := none, cancelled := false, declined := false }

/-- Reviews as they are presented by default on 3 March 2026 in New York. -/
def newYorkDesk : Presenter where
  zone := ZoneRule.zone ⟨"America/New_York", -300, some ZoneRule.northAmerican⟩
  today := .calendar (.shows ⟨⟨739677, by decide⟩⟩)
  write := dueText

def nightView : View :=
  ⟨.reviewOverdue, "Overdue", some "Review due: 2026-03-02", some "overdue", []⟩

/-- In New York the review was due on the day before. -/
theorem nightReview_agrees : nightReview.Waits ∧ newYorkDesk.present nightReview = .ok nightView ∧
    ∃ current date : Date, newYorkDesk.today.date newYorkDesk.zone = .ok current ∧
      date.text < current.text ∧ nightView.details = some ("Review due: " ++ date.text) := by
  have hwaits : nightReview.Waits := ⟨rfl, rfl, rfl, rfl, rfl⟩
  have hpresent : newYorkDesk.present nightReview = .ok nightView :=
    eq_ok_of_toOption (by decide +kernel)
  obtain ⟨current, hcurrent, date, -, hdetails, hstatus, -⟩ := (present_agrees hpresent).1 hwaits
  refine ⟨hwaits, hpresent, current, date, hcurrent, ?_, hdetails⟩
  by_contra hlate
  rw [if_neg hlate] at hstatus
  cases hstatus

end EditorialDesk.Review
