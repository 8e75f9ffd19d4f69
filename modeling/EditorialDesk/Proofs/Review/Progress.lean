import EditorialDesk.Proofs.Review.Failure
import Mathlib.Data.List.Forall2

/-!
# The progress of a review

Nothing that happens to a review is taken back: it is cancelled or declined for good, and a
date on which something happened can be replaced but not taken out. Only due dates come and
go. So the statuses that are derived in the course of a review never fall back, whatever the
zones and the days on which they are derived, and a review that stays where it is changes
its status only with its due date and the day, and only as long as it is waited for.
-/
namespace EditorialDesk.Review

open Calendar

/-- How far a review of this status has come. Whether it is overdue makes no difference. -/
def Status.rank : Status → Nat
  | awaitingResponse | responseOverdue => 0
  | accepted | reviewOverdue => 1
  | received => 2
  | complete => 3
  | thanked => 4
  | declined => 5
  | cancelled => 6

/-- What can happen to a review. -/
inductive Occurrence where
  | cancelled
  | declined
  | confirmed (date : Dated)
  | received (date : Dated)
  | completed (date : Dated)
  | acknowledged (date : Dated)
  /-- The response gets another due date, or none. -/
  | responseDue (date : Option Dated)
  /-- The review gets another due date, or none. -/
  | reviewDue (date : Option Dated)
deriving DecidableEq, Repr

/-- The height of the first mark that is set, counted from the last one up. -/
def height : List Bool → Nat
  | [] => 0
  | mark :: rest => if mark then rest.length + 1 else height rest

lemma height_le_length (marks : List Bool) : height marks ≤ marks.length := by
  induction marks with
  | nil => exact Nat.le_refl 0
  | cons mark rest ih =>
    rw [height, List.length_cons]
    split <;> omega

/-- Where marks are only added, the height does not sink. -/
lemma height_mono {xs ys : List Bool}
    (h : List.Forall₂ (fun x y => x = true → y = true) xs ys) : height xs ≤ height ys := by
  induction h with
  | nil => exact Nat.le_refl _
  | @cons x y xs ys hxy hrest ih =>
    have hlength := hrest.length_eq
    have hbound := height_le_length xs
    cases y with
    | true =>
      cases x <;> simp only [height, if_true, Bool.false_eq_true, if_false] <;> omega
    | false =>
      have hx : x = false := by simpa using hxy
      simpa only [height, hx, Bool.false_eq_true, if_false] using ih

namespace Assignment

variable {a b c : Assignment} {z : Zone} {today : Today} {s : Status}

/-- The assignment once something has happened. -/
def after (a : Assignment) : Occurrence → Assignment
  | .cancelled => { a with cancelled := true }
  | .declined => { a with declined := true }
  | .confirmed date => { a with dateConfirmed := some date }
  | .received date => { a with dateReceived := some date }
  | .completed date => { a with dateCompleted := some date }
  | .acknowledged date => { a with dateAcknowledged := some date }
  | .responseDue date => { a with dateResponseDue := date }
  | .reviewDue date => { a with dateDue := date }

/-- What has happened to an assignment, what counts most first. -/
def marks (a : Assignment) : List Bool :=
  [a.cancelled, a.declined, a.dateAcknowledged.isSome, a.dateCompleted.isSome,
    a.dateReceived.isSome, a.dateConfirmed.isSome]

/-- What has happened to one assignment has happened to another as well, perhaps on other dates. -/
structure Precedes (a b : Assignment) : Prop where
  cancelled : a.cancelled = true → b.cancelled = true
  declined : a.declined = true → b.declined = true
  acknowledged : a.dateAcknowledged.isSome = true → b.dateAcknowledged.isSome = true
  completed : a.dateCompleted.isSome = true → b.dateCompleted.isSome = true
  received : a.dateReceived.isSome = true → b.dateReceived.isSome = true
  confirmed : a.dateConfirmed.isSome = true → b.dateConfirmed.isSome = true

lemma Precedes.trans (h : a.Precedes b) (h' : b.Precedes c) : a.Precedes c where
  cancelled := h'.cancelled ∘ h.cancelled
  declined := h'.declined ∘ h.declined
  acknowledged := h'.acknowledged ∘ h.acknowledged
  completed := h'.completed ∘ h.completed
  received := h'.received ∘ h.received
  confirmed := h'.confirmed ∘ h.confirmed

lemma precedes_after (a : Assignment) (o : Occurrence) : a.Precedes (a.after o) := by
  cases o <;> constructor <;> simp [after]

lemma Precedes.height_le (h : a.Precedes b) : height a.marks ≤ height b.marks :=
  height_mono (.cons h.cancelled (.cons h.declined (.cons h.acknowledged (.cons h.completed
    (.cons h.received (.cons h.confirmed .nil))))))

/-- While a review is waited for, only its confirmation can have happened. -/
lemma height_of_waits (ha : a.Waits) :
    height a.marks = if a.dateConfirmed.isNone then 0 else 1 := by
  simp only [marks, height, ha.cancelled, ha.declined, ha.acknowledged, ha.completed,
    ha.received, Option.isSome_none, Bool.false_eq_true, if_false, List.length_nil]
  cases a.dateConfirmed <;> rfl

/-- The status of a review that is waited for no more ranks as high as what has happened. -/
lemma rank_of_not_waits (ha : ¬a.Waits) (h : a.status z today = .ok s) :
    s.rank = height a.marks := by
  unfold status at h
  simp only [marks, height]
  split_ifs at h ⊢ with hcancelled hdeclined hacknowledged hcompleted hreceived
  iterate 5 exact Except.ok.inj h ▸ rfl
  all_goals
    simp only [Bool.not_eq_true, Option.isSome_eq_false_iff, Option.isNone_iff_eq_none] at *
    exact absurd ⟨hcancelled, hdeclined, hreceived, hcompleted, hacknowledged⟩ ha

/-- A status ranks as high as what has happened, in whatever zone and on whatever day. -/
lemma rank_of_status (h : a.status z today = .ok s) : s.rank = height a.marks := by
  by_cases ha : a.Waits
  · obtain ⟨-, -, past, -, rfl⟩ := (status_eq_ok ha).1 h
    rw [height_of_waits ha]
    unfold overdueStatus openStatus
    cases past <;> cases a.dateConfirmed <;> rfl
  · exact rank_of_not_waits ha h

/-- A review that is waited for no more has come beyond its confirmation. -/
lemma two_le_height (ha : ¬a.Waits) : 2 ≤ height a.marks := by
  obtain ⟨s, hs, hstatus⟩ := status_of_not_waits ha
  have hown : a.status .utc (.clock 0) = .ok s :=
    hstatus .utc (.clock 0) a.dateResponseDue a.dateDue
  have hall : ∀ s ∈ [Status.cancelled, .declined, .thanked, .complete, .received], 2 ≤ s.rank := by
    decide
  exact rank_of_status hown ▸ hall s hs

end Assignment

/-- A look at the status of an assignment, in a zone and on a day. -/
structure Look where
  assignment : Assignment
  zone : Zone
  today : Today

namespace Look

variable {l l' : Look} {s s' : Status}

/-- The status that is seen. -/
def status (l : Look) : Except Fault Status := l.assignment.status l.zone l.today

/-- The due date that counts is there, and it falls on a day before today. -/
def PastDue (l : Look) : Prop :=
  ∃ f date current, l.assignment.due = some f ∧ l.zone.FallsOn f date ∧
    l.today.date l.zone = .ok current ∧ date < current

lemma status_of_waits (ha : l.assignment.Waits) (h : l.status = .ok s) :
    l.PastDue ∧ s = l.assignment.overdueStatus ∨
      ¬l.PastDue ∧ s = l.assignment.openStatus := by
  obtain ⟨current, hcurrent, past, hpast, rfl⟩ := (Assignment.status_eq_ok ha).1 h
  have hiff : past = true ↔ l.PastDue := by
    cases hdue : l.assignment.due with
    | none =>
      rw [hdue] at hpast
      obtain rfl : false = past := Except.ok.inj hpast
      simp [PastDue, hdue]
    | some f =>
      rw [hdue] at hpast
      obtain ⟨date, hdate, rfl⟩ := isPast_some.1 hpast
      have hfalls : l.zone.FallsOn f date := Zone.fallsOn_of_dateOf? hdate
      rw [decide_eq_true_iff]
      constructor
      · exact fun hlt => ⟨f, date, current, hdue, hfalls, hcurrent, hlt⟩
      · rintro ⟨f', date', current', hdue', hfalls', hcurrent', hlt⟩
        obtain rfl := Option.some.inj (hdue.symm.trans hdue')
        obtain rfl := hfalls.unique hfalls'
        obtain rfl := Except.ok.inj (hcurrent.symm.trans hcurrent')
        exact hlt
  cases past with
  | true => exact .inl ⟨hiff.1 rfl, rfl⟩
  | false => exact .inr ⟨fun hlate => Bool.false_ne_true (hiff.2 hlate), rfl⟩

/-- There is a status to see unless the review is waited for and today cannot be told or its due
date is lost in the zone. -/
lemma exists_status_iff (l : Look) : (∃ s, l.status = .ok s) ↔ (l.assignment.Waits →
    (∃ current, l.today.date l.zone = .ok current) ∧
      ∀ f, l.assignment.due = some f → ¬l.zone.Loses f) := by
  constructor
  · rintro ⟨s, h⟩ ha
    obtain ⟨current, hcurrent, past, hpast, -⟩ := (Assignment.status_eq_ok ha).1 h
    exact ⟨⟨current, hcurrent⟩, (exists_past_iff current).1 ⟨past, hpast⟩⟩
  · intro h
    by_cases ha : l.assignment.Waits
    · obtain ⟨⟨current, hcurrent⟩, hdue⟩ := h ha
      obtain ⟨past, hpast⟩ := (exists_past_iff current).2 hdue
      exact ⟨_, (Assignment.status_eq_ok ha).2 ⟨current, hcurrent, past, hpast, rfl⟩⟩
    · obtain ⟨s, -, hstatus⟩ := Assignment.status_of_not_waits ha
      exact ⟨s, hstatus l.zone l.today l.assignment.dateResponseDue l.assignment.dateDue⟩

lemma waits_of_rank (h : l.status = .ok s) (hs : s.rank < 2) : l.assignment.Waits ∧
    s.rank = if l.assignment.dateConfirmed.isNone then 0 else 1 := by
  have hrank := Assignment.rank_of_status h
  have ha : l.assignment.Waits := by
    by_contra ha
    have := Assignment.two_le_height ha
    omega
  exact ⟨ha, hrank.trans (Assignment.height_of_waits ha)⟩

/-- Two statuses of one low rank differ exactly if one of them is seen after the due date. -/
lemma status_ne_iff (h : l.status = .ok s) (h' : l'.status = .ok s') (hs : s.rank < 2)
    (hrank : s.rank = s'.rank) : s ≠ s' ↔ ¬(l.PastDue ↔ l'.PastDue) := by
  obtain ⟨ha, hlow⟩ := waits_of_rank h hs
  obtain ⟨ha', hlow'⟩ := waits_of_rank h' (hrank ▸ hs)
  have hconfirmed : l.assignment.dateConfirmed.isNone = l'.assignment.dateConfirmed.isNone := by
    rw [hlow, hlow'] at hrank
    cases hl : l.assignment.dateConfirmed.isNone <;>
      cases hl' : l'.assignment.dateConfirmed.isNone <;> simp_all
  have hover : l'.assignment.overdueStatus = l.assignment.overdueStatus := by
    simp only [Assignment.overdueStatus, hconfirmed]
  have hopen : l'.assignment.openStatus = l.assignment.openStatus := by
    simp only [Assignment.openStatus, hconfirmed]
  have hne : l.assignment.overdueStatus ≠ l.assignment.openStatus := by
    unfold Assignment.overdueStatus Assignment.openStatus
    split <;> decide
  obtain ⟨hlate, rfl⟩ | ⟨hlate, rfl⟩ := status_of_waits ha h <;>
    obtain ⟨hlate', rfl⟩ | ⟨hlate', rfl⟩ := status_of_waits ha' h' <;>
    simp [hlate, hlate', hover, hopen, hne, hne.symm]

/-- Above the ranks of a review that is waited for, each rank has one status. -/
lemma eq_of_rank (hs : 2 ≤ s.rank) (hrank : s.rank = s'.rank) : s = s' := by
  cases s <;> cases s' <;> first | rfl | simp [Status.rank] at hs hrank

/-- What is seen of an assignment never falls back behind what was seen of it before. -/
lemma rank_le (hle : l.assignment.Precedes l'.assignment) (h : l.status = .ok s)
    (h' : l'.status = .ok s') : s.rank ≤ s'.rank :=
  Assignment.rank_of_status h ▸ Assignment.rank_of_status h' ▸ hle.height_le

end Look

/-- Something that happens to a review, and the zone and the day in which its status is then
derived. -/
structure Turn where
  occurrence : Occurrence
  zone : Zone
  today : Today

/-- The looks at a review in its course. -/
def looks (a : Assignment) : List Turn → List Look
  | [] => []
  | t :: rest => ⟨a.after t.occurrence, t.zone, t.today⟩ :: looks (a.after t.occurrence) rest

/-- In the course of a review nothing is taken back of what happened before. -/
lemma precedes_of_mem_looks {a : Assignment} {turns : List Turn} {l : Look}
    (hl : l ∈ looks a turns) : a.Precedes l.assignment := by
  induction turns generalizing a with
  | nil => cases hl
  | cons t rest ih =>
    rcases List.mem_cons.1 hl with rfl | hl
    · exact a.precedes_after t.occurrence
    · exact (a.precedes_after t.occurrence).trans (ih hl)

lemma pairwise_looks (a : Assignment) (turns : List Turn) :
    (looks a turns).Pairwise fun l l' => l.assignment.Precedes l'.assignment := by
  induction turns generalizing a with
  | nil => exact .nil
  | cons t rest ih => exact .cons (fun l hl => precedes_of_mem_looks hl) (ih _)

/-- In the course of a review the statuses that are derived never fall back in rank. Two of one
rank differ exactly if the review is still waited for and the due date is past in one case only.
Each time there is a status unless the review is waited for and today cannot be told or the due
date that counts is lost in the zone. -/
theorem status_never_back (a : Assignment) (turns : List Turn) :
    (looks a turns).Pairwise (fun l l' => ∀ s s', l.status = .ok s → l'.status = .ok s' →
      s.rank ≤ s'.rank ∧
        (s.rank = s'.rank → (s ≠ s' ↔ s.rank < 2 ∧ ¬(l.PastDue ↔ l'.PastDue)))) ∧
    ∀ l ∈ looks a turns, (∃ s, l.status = .ok s) ↔ (l.assignment.Waits →
      (∃ current, l.today.date l.zone = .ok current) ∧
        ∀ f, l.assignment.due = some f → ¬l.zone.Loses f) := by
  refine ⟨(pairwise_looks a turns).imp fun hle s s' h h' => ?_, fun l _ => l.exists_status_iff⟩
  refine ⟨Look.rank_le hle h h', fun hrank => ?_⟩
  by_cases hs : s.rank < 2
  · rw [Look.status_ne_iff h h' hs hrank]
    exact ⟨fun hne => ⟨hs, hne⟩, And.right⟩
  · have heq : s = s' := Look.eq_of_rank (Nat.not_lt.1 hs) hrank
    exact iff_of_false (fun hne => hne heq) fun hlow => hs hlow.1

end EditorialDesk.Review
