import EditorialDesk.Intake.Routine
import EditorialDesk.Proofs.Intake.Distinct
import EditorialDesk.Proofs.Store.Service

/-!
# Trials of the intake

A run wishes to enrol users through groups. Each wish whose seat the run has not tried
before is tried: the seat is taken, and the enrolment logged, unless another has it
already. The trials of a run tell all that it has done to the assignments and the log.
-/
namespace EditorialDesk.Intake

open Database Store

/-- The wish to enrol a user through a group. -/
structure Wish where
  group : UserGroup
  userId : String
  recommendOnly : Bool

namespace Wish

/-- What tells the wishes of a run apart. -/
def key (w : Wish) : String × String := (w.group.id, w.userId)

def enrollment (s : Submission) (w : Wish) : Enrollment :=
  ⟨.text s.id, .text w.group.id, .text w.userId, .bool w.recommendOnly⟩

def seat (s : Submission) (w : Wish) : Seat := ⟨s.id, w.group.id, w.userId⟩

/-- The row by which a wish is asked for at a moment. -/
def row (now : Calendar.Moment) (s : Submission) (w : Wish) : Row :=
  assignmentRow now (w.enrollment s)

@[simp] lemma seatLabels_row (now : Calendar.Moment) (s : Submission) (w : Wish) :
    seatLabels (w.row now s) = (w.seat s).labels := rfl

lemma seat_eq_iff {s : Submission} {w w' : Wish} : w.seat s = w'.seat s ↔ w.key = w'.key := by
  simp [seat, key]

lemma sharesSeat_iff {s : Submission} {w w' : Wish} :
    (w.enrollment s).sharesSeat (w'.enrollment s) = true ↔ w.key = w'.key := by
  simp [enrollment, Enrollment.sharesSeat, key]

end Wish

/-- A wish that was tried: its place in the table if the seat was free, and then the place of its
entry in the log. -/
structure Trial where
  wish : Wish
  place : Option Nat
  line : Nat

namespace Trial

/-- The assignment that a trial has brought about. -/
def assignment? (now : Calendar.Moment) (s : Submission) (x : Trial) : Option StageAssignment :=
  x.place.map (assignmentAt now (x.wish.enrollment s))

def event (s : Submission) (x : Trial) : Event :=
  participantEvent s.id x.wish.group (.text x.wish.userId)

/-- What a trial has written. -/
def deeds (now : Calendar.Moment) (logs : Bool) (s : Submission) (x : Trial) : List Deed :=
  .enrolls now (x.wish.enrollment s) x.place ::
    if x.place.isSome && logs then Deed.logs now (x.event s) x.line else []

end Trial

/-- How far a run has come that has wished for `ws` and tried `ts`. -/
structure Trials (now : Calendar.Moment) (logs : Bool) (s : Submission) (ws : List Wish)
    (ts : List Trial) (p : Progress) (ds : List Deed) (t : Database) : Prop where
  wishes : ts.map (·.wish) = distinctOn Wish.key ws
  seen : p.seen = ts.map (·.wish.enrollment s)
  created : p.created = ts.filterMap (·.assignment? now s)
  deeds : ds = ts.flatMap (·.deeds now logs s)
  taken : ∀ x ∈ ts, (x.wish.seat s).labels ∈ seats (t.rows Table.stageAssignments)

variable {now : Calendar.Moment} {base : Database} {logs : Bool} {s : Submission}
variable {ws : List Wish} {ts : List Trial} {p : Progress} {ds : List Deed} {t u : Database}

lemma trials_start (now : Calendar.Moment) (logs : Bool) (s : Submission) (t : Database) :
    Trials now logs s [] [] .start [] t where
  wishes := rfl
  seen := rfl
  created := rfl
  deeds := rfl
  taken _ hx := absurd hx List.not_mem_nil

lemma Trials.later (h : Trials now logs s ws ts p ds t) (hu : Later t u) :
    Trials now logs s ws ts p ds u where
  wishes := h.wishes
  seen := h.seen
  created := h.created
  deeds := h.deeds
  taken x hx := seats_subset hu.assignments (h.taken x hx)

/-- The list of those to notify has no part in the trials. -/
lemma Trials.note (h : Trials now logs s ws ts p ds t) (userId : Value) :
    Trials now logs s ws ts (p.note userId) ds t := by
  unfold Progress.note
  split
  · exact h
  · exact ⟨h.wishes, h.seen, h.created, h.deeds, h.taken⟩

/-- The seats that have been tried are those wished for. -/
lemma Trials.mem_seats_iff (h : Trials now logs s ws ts p ds t) {w : Wish} :
    (∃ x ∈ ts, x.wish.key = w.key) ↔ w.key ∈ ws.map Wish.key := by
  rw [← mem_map_distinctOn, ← h.wishes, List.map_map]
  simp

lemma Trials.any_seen (h : Trials now logs s ws ts p ds t) (w : Wish) :
    p.seen.any (·.sharesSeat (w.enrollment s)) = true ↔ w.key ∈ ws.map Wish.key := by
  rw [← h.mem_seats_iff, h.seen, List.any_map, List.any_eq_true]
  simp [Wish.sharesSeat_iff]

lemma Trials.skip (h : Trials now logs s ws ts p ds t) {w : Wish}
    (hw : w.key ∈ ws.map Wish.key) : Trials now logs s (ws ++ [w]) ts p ds t where
  wishes := by rw [distinctOn_concat, if_pos hw, h.wishes]
  seen := h.seen
  created := h.created
  deeds := h.deeds
  taken := h.taken

lemma Trials.concat (h : Trials now logs s ws ts p ds t) {x : Trial}
    (hx : x.wish.key ∉ ws.map Wish.key) {p' : Progress} {es : List Deed} {u : Database}
    (hseen : p'.seen = p.seen ++ [x.wish.enrollment s])
    (hcreated : p'.created = p.created ++ (x.assignment? now s).toList)
    (hdeeds : es = x.deeds now logs s) (hlater : Later t u)
    (htaken : (x.wish.seat s).labels ∈ seats (u.rows Table.stageAssignments)) :
    Trials now logs s (ws ++ [x.wish]) (ts ++ [x]) p' (ds ++ es) u where
  wishes := by rw [distinctOn_concat, if_neg hx, ← h.wishes, List.map_append]; rfl
  seen := by rw [hseen, h.seen, List.map_append]; rfl
  created := by
    rw [hcreated, h.created, List.filterMap_append]
    cases hplace : x.assignment? now s <;> simp [hplace]
  deeds := by rw [hdeeds, h.deeds, List.flatMap_append]; simp
  taken y hy := by
    rcases List.mem_append.1 hy with hy | hy
    · exact seats_subset hlater.assignments (h.taken y hy)
    · rw [List.mem_singleton.1 hy]
      exact htaken

/-- An enrolment in a run: the wish is passed over if its seat has been tried, and tried
otherwise. A trial finds the seat taken if it was taken before. -/
theorem enroll_meets (h : Trials now logs s ws ts p ds t) (w : Wish) :
    (enroll logs s p w.group (.text w.userId) w.recommendOnly).Meets (serving now base) t
      fun p' es u => Later t u ∧ p'.notify = p.notify ∧
        ∃ more, Trials now logs s (ws ++ [w]) (ts ++ more) p' (ds ++ es) u ∧
          ((w.seat s).labels ∈ seats (t.rows Table.stageAssignments) →
            ∀ x ∈ more, x.place = none) := by
  unfold enroll
  rw [Program.meets_bind]
  simp only [Fault.named_text, Program.meets_ofExcept_ok]
  have hseen := h.any_seen w
  unfold Wish.enrollment at hseen
  by_cases hw : w.key ∈ ws.map Wish.key
  · rw [if_pos (hseen.2 hw)]
    refine ⟨.refl t, rfl, [], ?_, fun _ x hx => absurd hx List.not_mem_nil⟩
    simpa using h.skip hw
  · rw [if_neg (mt hseen.1 hw)]
    refine (Program.meets_request_bind _ _ _ _).2 ⟨trivial, ?_⟩
    rintro r es u ⟨hu, place, rfl, rfl, hfree, htaken⟩
    cases place with
    | none =>
      refine ⟨hu, rfl, [⟨w, none, 0⟩], ?_, ?_⟩
      · exact h.concat (x := ⟨w, none, 0⟩) hw rfl (List.append_nil _).symm rfl hu htaken
      · intro _ x hx
        rw [List.mem_singleton.1 hx]
    | some place =>
      have hne : (w.seat s).labels ∉ seats (t.rows Table.stageAssignments) := hfree (by simp)
      simp only [Option.map_some]
      by_cases hlogs : logs = true
      · rw [if_pos hlogs]
        refine (Program.meets_request_bind _ _ _ _).2 ⟨⟨_, rfl⟩, ?_⟩
        rintro entry fs v ⟨hv, line, rfl⟩
        refine ⟨hu.trans hv, rfl, [⟨w, some place, line⟩], ?_, fun hmem => absurd hmem hne⟩
        refine h.concat (x := ⟨w, some place, line⟩) hw rfl rfl ?_ (hu.trans hv)
          (seats_subset hv.assignments htaken)
        simp [Trial.deeds, hlogs, Trial.event, Wish.enrollment]
      · rw [if_neg hlogs]
        refine ⟨hu, rfl, [⟨w, some place, 0⟩], ?_, fun hmem => absurd hmem hne⟩
        refine h.concat (x := ⟨w, some place, 0⟩) hw rfl rfl ?_ hu htaken
        simp [Trial.deeds, hlogs, Wish.enrollment]

end EditorialDesk.Intake
