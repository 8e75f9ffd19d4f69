import EditorialDesk.Proofs.Review.DueDate

/-!
# When a review cannot be presented

Presenting a review is a total matter but for the ends of the calendar: a due date that is
waited for is converted to the zone, and the conversion can leave years 1 to 9999, in UTC or
in the zone. Nothing else can fail, and a due date that is not waited for is never converted.
-/
namespace EditorialDesk

open Calendar

namespace Calendar.Zone

variable {z : Zone} {i : Instant}

/-- At the instant UTC and a clock in the zone both show a moment of the calendar. -/
def Reaches (z : Zone) (i : Instant) : Prop :=
  (0 ≤ i ∧ i < clockSpan) ∧ 0 ≤ z.localTicks i ∧ z.localTicks i < clockSpan

/-- The conversion of a field to the zone leaves the calendar. Only a moment of a known offset is
converted. -/
def Loses (z : Zone) : Dated → Prop
  | .moment m => ∃ i, m.instant? = some i ∧ ¬z.Reaches i
  | .day _ => False

lemma reaches_iff : z.Reaches i ↔ ∃ d, z.dateAt? i = some d := by
  simp only [dateAt?_eq_some]
  constructor
  · rintro ⟨hi, hlocal⟩
    obtain ⟨ticks, hticks⟩ := exists_clock hlocal
    exact ⟨_, hi, shows_date hticks⟩
  · rintro ⟨d, hi, hlow, hhigh⟩
    refine ⟨hi, ?_⟩
    have hday := d.index.isLt
    unfold clockSpan dayTicks dayCount at *
    omega

lemma loses_iff {f : Dated} : z.Loses f ↔ z.dateOf? f = none := by
  cases f with
  | day d => simp [Loses, dateOf?]
  | moment m =>
    unfold Loses dateOf?
    cases hm : m.instant? with
    | none => simp [hm]
    | some i =>
      simp only [hm, Option.some.injEq, exists_eq_left', reaches_iff]
      cases z.dateAt? i <;> simp

end Calendar.Zone

namespace Review

variable {a : Assignment} {p : Presenter} {z : Zone}

namespace Assignment

/-- The assignment with another value for the due date that does not count. -/
def withIdleDue (a : Assignment) (other : Option Dated) : Assignment :=
  if a.dateConfirmed.isNone then { a with dateDue := other }
  else { a with dateResponseDue := other }

lemma withIdleDue_eq (a : Assignment) (other : Option Dated) :
    ∃ response review, a.withIdleDue other = a.withDues response review := by
  unfold withIdleDue
  split
  · exact ⟨a.dateResponseDue, other, rfl⟩
  · exact ⟨other, a.dateDue, rfl⟩

lemma due_withIdleDue (a : Assignment) (other : Option Dated) :
    (a.withIdleDue other).due = a.due := by
  unfold withIdleDue due
  cases a.dateConfirmed <;> rfl

end Assignment

/-- A due date can be compared with a day unless it is lost. -/
lemma exists_past_iff {due : Option Dated} (day : Date) :
    (∃ past, isPast z due day = .ok past) ↔ ∀ f, due = some f → ¬z.Loses f := by
  unfold isPast
  cases due with
  | none => simp
  | some f =>
    simp only [Option.some.injEq, forall_eq', Zone.loses_iff]
    cases z.dateOf? f <;> simp [Fault.inCalendar, Except.map]

namespace Presenter

/-- While a review is waited for, its due date alone is looked at, for the status and for the
details. -/
lemma present_of_waits (ha : a.Waits) (p : Presenter) : p.present a = do
    let current ← p.today.date p.zone
    let past ← isPast p.zone a.due current
    let line ← p.dueLine a.dueHeading a.due
    let status := if past then a.overdueStatus else a.openStatus
    return ⟨status, status.label, line, status.stateClass?, status.actions⟩ := by
  unfold present
  rw [Assignment.status_of_waits ha]
  cases p.today.date p.zone with
  | error fault => rfl
  | ok current =>
    simp only [bind, Except.bind]
    cases isPast p.zone a.due current with
    | error fault => rfl
    | ok past =>
      have hkind : (if past then a.overdueStatus else a.openStatus) = a.openStatus ∨
          (if past then a.overdueStatus else a.openStatus) = a.overdueStatus := by
        cases past <;> simp
      simp only [pure, Except.pure, details_of_waits p a hkind]

/-- The due date that does not count is not looked at. -/
lemma present_withIdleDue (p : Presenter) (a : Assignment) (other : Option Dated) :
    p.present (a.withIdleDue other) = p.present a := by
  obtain ⟨response, review, hdues⟩ := a.withIdleDue_eq other
  by_cases ha : a.Waits
  · have hwaits : (a.withIdleDue other).Waits := by
      rw [hdues]
      exact ⟨ha.cancelled, ha.declined, ha.received, ha.completed, ha.acknowledged⟩
    have hconfirmed : (a.withIdleDue other).dateConfirmed = a.dateConfirmed := by rw [hdues]; rfl
    simp only [present_of_waits ha, present_of_waits hwaits, a.due_withIdleDue,
      Assignment.dueHeading, Assignment.overdueStatus, Assignment.openStatus, hconfirmed]
  · rw [hdues, present_of_not_waits ha]

lemma exists_view_of_not_waits (ha : ¬a.Waits) (p : Presenter) : ∃ v, p.present a = .ok v := by
  obtain ⟨s, hs, hstatus⟩ := Assignment.status_of_not_waits ha
  have hown : a.status p.zone p.today = .ok s := hstatus p.zone p.today a.dateResponseDue a.dateDue
  have hdetails : ∃ line, p.details a s = .ok line := by
    simp only [List.mem_cons, List.not_mem_nil, or_false] at hs
    rcases hs with rfl | rfl | rfl | rfl | rfl <;> exact ⟨_, rfl⟩
  obtain ⟨line, hline⟩ := hdetails
  exact ⟨_, present_eq_ok.2 ⟨s, hown, line, hline, rfl⟩⟩

lemma exists_line {due : Option Dated} (hdue : ∀ f, due = some f → ¬p.zone.Loses f)
    (heading : String) : ∃ line, p.dueLine heading due = .ok line := by
  unfold dueLine
  cases due with
  | none =>
    simp only [bind, Except.bind, pure, Except.pure]
    cases p.write none <;> exact ⟨_, rfl⟩
  | some f =>
    obtain ⟨date, hdate⟩ := Option.ne_none_iff_exists'.1 (mt Zone.loses_iff.2 (hdue f rfl))
    simp only [hdate, Fault.inCalendar, Except.map, bind, Except.bind, pure, Except.pure]
    cases p.write (some date) <;> exact ⟨_, rfl⟩

/-- On a day that can be told, a review that is waited for is presented if its due date is not
lost. -/
lemma exists_view_of_waits (ha : a.Waits) {day : Date} (htoday : p.today.date p.zone = .ok day)
    (hdue : ∀ f, a.due = some f → ¬p.zone.Loses f) : ∃ v, p.present a = .ok v := by
  obtain ⟨past, hpast⟩ := (exists_past_iff day).2 hdue
  obtain ⟨line, hline⟩ := exists_line hdue a.dueHeading
  rw [present_of_waits ha, htoday]
  simp only [bind, Except.bind, hpast, hline]
  exact ⟨_, rfl⟩

lemma present_of_loses (ha : a.Waits) {day : Date} (htoday : p.today.date p.zone = .ok day)
    {f : Dated} (hdue : a.due = some f) (hf : p.zone.Loses f) :
    p.present a = .error .overflow := by
  rw [present_of_waits ha, htoday, hdue]
  unfold isPast
  simp only [Zone.loses_iff.1 hf]
  rfl

/-- On a day that can be told, only a due date that is lost fails the presentation. -/
lemma present_eq_error {day : Date} (htoday : p.today.date p.zone = .ok day) {fault : Fault} :
    p.present a = .error fault ↔
      fault = .overflow ∧ a.Waits ∧ ∃ f, a.due = some f ∧ p.zone.Loses f := by
  constructor
  · intro hfails
    have hnone : ¬∃ v, p.present a = .ok v := by
      rintro ⟨v, hv⟩
      cases hfails.symm.trans hv
    have ha : a.Waits := by
      by_contra ha
      exact hnone (exists_view_of_not_waits ha p)
    have hlost : ∃ f, a.due = some f ∧ p.zone.Loses f := by
      by_contra hkept
      exact hnone (exists_view_of_waits ha htoday fun f hdue hf => hkept ⟨f, hdue, hf⟩)
    obtain ⟨f, hdue, hf⟩ := hlost
    rw [present_of_loses ha htoday hdue hf] at hfails
    exact ⟨(Except.error.inj hfails).symm, ha, f, hdue, hf⟩
  · rintro ⟨rfl, ha, f, hdue, hf⟩
    exact present_of_loses ha htoday hdue hf

end Presenter

/-- On a given day a review cannot be presented exactly if it is waited for and the due date that
counts is a moment whose conversion to the zone leaves the calendar; the fault is then that of a
date out of range. The other due date makes no difference to anyone who presents the review. -/
theorem present_fails (z : Zone) (day : Date) (write : Option Date → Option String)
    (a : Assignment) :
    (∀ fault, (⟨z, .calendar (.shows day), write⟩ : Presenter).present a = .error fault ↔
      fault = .overflow ∧ a.Waits ∧ ∃ m, a.due = some (.moment m) ∧
        ∃ i, m.instant? = some i ∧ ¬z.Reaches i) ∧
    ∀ (p : Presenter) (other : Option Dated), p.present (a.withIdleDue other) = p.present a := by
  refine ⟨fun fault => ?_, fun p other => p.present_withIdleDue a other⟩
  have hlost : (∃ f, a.due = some f ∧ z.Loses f) ↔ ∃ m, a.due = some (.moment m) ∧
      ∃ i, m.instant? = some i ∧ ¬z.Reaches i := by
    constructor
    · rintro ⟨m | d, hdue, hf⟩
      · exact ⟨m, hdue, hf⟩
      · exact hf.elim
    · rintro ⟨m, hdue, hm⟩
      exact ⟨.moment m, hdue, hm⟩
  rw [← hlost]
  exact Presenter.present_eq_error rfl

end Review
end EditorialDesk
