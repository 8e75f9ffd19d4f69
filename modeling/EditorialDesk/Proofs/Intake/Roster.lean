import EditorialDesk.Proofs.Intake.Candidates
import EditorialDesk.Proofs.Intake.Trial

/-!
# The roster of a run

Whom a run wishes to enrol and whom to notify, computed from the directory: the single
members of groups that are open at intake, and the sub-editors of the section and the
categories. The loops of the routine come to just these wishes; the assignments that
are carried over are tried as well, and never store anything.
-/
namespace EditorialDesk.Intake

open Database Store

/-- The wish for a group of managers or assistants, if it has a single member. -/
def singletonWish? (base : Database) (s : Submission) (g : UserGroup) : Option Wish :=
  if g.role.isIntakeSingleton then
    match base.members (.text g.id) (.text s.contextId) with
    | [userId] => some ⟨g, userId, g.recommendOnly⟩
    | _ => none
  else none

/-- The wishes for single members, by the identities of their groups. -/
def singletonWishes (base : Database) (s : Submission) : List Wish :=
  (base.groupsForStage (.text s.contextId) .intake).filterMap (singletonWish? base s)

/-- The wishes for a sub-editor, one for each group. -/
def userWishes (base : Database) (s : Submission) (userId : String) : List Wish :=
  ((base.groupsForUser (.text userId) (.text s.contextId)).filter (·.role == .subEditor)).map
    fun g => ⟨g, userId, g.recommendOnly⟩

def groupingWishes (base : Database) (s : Submission) (grouping : Grouping) : List Wish :=
  (base.subEditors grouping (.text s.contextId)).flatMap (userWishes base s)

/-- The wishes for the sub-editors of the section and the categories, without repeats. -/
def subEditorWishes (base : Database) (s : Submission) : List Wish :=
  distinctOn Wish.key ((groupings s).flatMap (groupingWishes base s))

/-- The users who are notified of the submission: single members, and the sub-editors whose groups
are open at intake. -/
def notifiedUsers (base : Database) (s : Submission) : List String :=
  distinct ((singletonWishes base s).map (·.userId) ++
    ((subEditorWishes base s).filter (·.group.permits .intake)).map (·.userId))

variable {now : Calendar.Moment} {base : Database} {logs : Bool} {s : Submission}
variable {ws : List Wish} {ts : List Trial} {p : Progress} {ds : List Deed} {t u : Database}
variable {users : List String}

lemma group_of_singletonWish? {g : UserGroup} {w : Wish} (h : singletonWish? base s g = some w) :
    w.group = g := by
  unfold singletonWish? at h
  split at h
  · split at h
    · rw [← Option.some.inj h]
    · cases h
  · cases h

lemma notify_note (h : p.notify = (distinct users).map .text) (userId : String) :
    (p.note (.text userId)).notify = (distinct (users ++ [userId])).map .text := by
  have hany : p.notify.any (·.alike (.text userId)) = true ↔ userId ∈ users := by
    rw [h, List.any_map, List.any_eq_true]
    simp
  unfold Progress.note
  rw [distinct_concat]
  by_cases hu : userId ∈ users
  · rw [if_pos (hany.2 hu), if_pos hu, h]
  · rw [if_neg (mt hany.1 hu), if_neg hu, h, List.map_append]
    rfl

/-- One group of the first loop: its single member is tried and put on the list. -/
lemma enrollSingleton_meets (h : Trials now logs s ws ts p ds t)
    (hp : p.notify = (distinct users).map .text) (g : UserGroup) :
    (enrollSingleton logs s p g).Meets (serving now base) t fun p' es u => Later t u ∧
      ∃ more, Trials now logs s (ws ++ (singletonWish? base s g).toList) (ts ++ more) p'
          (ds ++ es) u ∧
        p'.notify =
          (distinct (users ++ ((singletonWish? base s g).map (·.userId)).toList)).map .text := by
  have hnone : ∀ u, Later t u → Later t u ∧ ∃ more, Trials now logs s (ws ++ []) (ts ++ more) p
      (ds ++ []) u ∧ p.notify = (distinct (users ++ [])).map .text := by
    intro u hu
    refine ⟨hu, [], ?_, by simpa using hp⟩
    simpa using h.later hu
  unfold enrollSingleton singletonWish?
  by_cases hrole : g.role.isIntakeSingleton = true
  · simp only [if_pos hrole]
    refine (Program.meets_request_bind _ _ _ _).2 ⟨rfl, ?_⟩
    rintro r es u ⟨hu, rfl, rfl⟩
    rcases base.members (.text g.id) (.text s.contextId) with _ | ⟨userId, _ | ⟨other, rest⟩⟩
    · exact hnone u hu
    · simp only [List.map_cons, List.map_nil]
      rw [Program.meets_bind]
      refine (enroll_meets (h.later hu) ⟨g, userId, g.recommendOnly⟩).mono ?_
      rintro p' es v ⟨hv, hnotify, more, hmore, -⟩
      refine ⟨hu.trans hv, more, ?_, notify_note (hnotify.trans hp) userId⟩
      simpa using hmore.note (.text userId)
    · exact hnone u hu
  · simp only [if_neg hrole]
    exact hnone t (.refl t)

/-- The first loop tries the single members of the groups that are open at intake. -/
lemma enrollSingletons_meets (t : Database) :
    (enrollSingletons logs s .start).Meets (serving now base) t fun p es u => ∃ ts,
      Trials now logs s (singletonWishes base s) ts p es u ∧
        p.notify = (distinct ((singletonWishes base s).map (·.userId))).map .text := by
  unfold enrollSingletons singletonWishes
  refine (Program.meets_request_bind _ _ _ _).2 ⟨trivial, ?_⟩
  rintro groups es u ⟨hu, rfl, rfl⟩
  refine (Program.meets_foldlM (enrollSingleton logs s) (fun before p ds t => ∃ ts,
    Trials now logs s (before.filterMap (singletonWish? base s)) ts p ds t ∧
      p.notify = (distinct ((before.filterMap (singletonWish? base s)).map (·.userId))).map .text)
    _ ?_ ⟨[], trials_start now logs s u, rfl⟩).mono fun p ds t h => h
  rintro before g - p ds t ⟨ts, hts, hp⟩
  refine (enrollSingleton_meets hts hp g).mono ?_
  rintro p' es u ⟨-, more, hmore, hnotify⟩
  have hlast : [g].filterMap (singletonWish? base s) = (singletonWish? base s g).toList := by
    cases hg : singletonWish? base s g <;> simp [hg]
  rw [List.filterMap_append, hlast]
  refine ⟨ts ++ more, hmore, ?_⟩
  rw [hnotify, List.map_append, Option.toList_map]

/-- The assignments that are carried over take seats that are taken, so that nothing is stored. -/
lemma carryFirstAuthor_meets (h : Trials now logs s ws ts p ds t) {as : List StageAssignment}
    (has : ∀ a ∈ as, a.seat.labels ∈ seats (t.rows Table.stageAssignments) ∧
      a.seat.submissionId = s.id) :
    (carryFirstAuthor logs s p as).Meets (serving now base) t fun p' es u =>
      p'.notify = p.notify ∧ ∃ cs more, Trials now logs s (ws ++ cs) (ts ++ more) p' (ds ++ es) u ∧
        ∀ x ∈ more, x.place = none := by
  induction as generalizing t ds with
  | nil => exact ⟨rfl, [], [], by simpa using h, fun x hx => absurd hx List.not_mem_nil⟩
  | cons a rest ih =>
    obtain ⟨hseat, hsub⟩ := has a List.mem_cons_self
    have hrest : ∀ u, Later t u → ∀ b ∈ rest,
        b.seat.labels ∈ seats (u.rows Table.stageAssignments) ∧ b.seat.submissionId = s.id :=
      fun u hu b hb => (has b (List.mem_cons_of_mem a hb)).imp_left
        fun hmem => seats_subset hu.assignments hmem
    unfold carryFirstAuthor
    refine (Program.meets_request_bind _ _ _ _).2 ⟨rfl, ?_⟩
    rintro r es u ⟨hu, rfl, rfl⟩
    simp only [List.nil_append]
    cases hg : base.group? (.text a.seat.groupId) with
    | none => exact ih (h.later hu) (hrest u hu)
    | some g =>
      by_cases hrole : (g.role == .author) = true
      · simp only [hrole, if_true]
        have hlabels : (Wish.seat s ⟨g, a.seat.userId, false⟩).labels = a.seat.labels := by
          simp [Wish.seat, Seat.labels, id_of_group? hg, hsub]
        refine (enroll_meets (h.later hu) ⟨g, a.seat.userId, false⟩).mono ?_
        rintro p' es v ⟨hv, hnotify, more, hmore, hnone⟩
        refine ⟨hnotify, [⟨g, a.seat.userId, false⟩], more, hmore, hnone ?_⟩
        rw [hlabels]
        exact seats_subset hu.assignments hseat
      · simp only [hrole, if_false, Bool.false_eq_true]
        exact ih (h.later hu) (hrest u hu)

lemma carrySubmitter_meets (h : Trials now logs s ws ts p ds t) (submitter : Value) :
    (carrySubmitter logs s submitter p).Meets (serving now base) t fun p' es u =>
      p'.notify = p.notify ∧ ∃ cs more, Trials now logs s (ws ++ cs) (ts ++ more) p' (ds ++ es) u ∧
        ∀ x ∈ more, x.place = none := by
  unfold carrySubmitter
  split
  · refine (Program.meets_request_bind _ _ _ _).2 ⟨rfl, ?_⟩
    rintro as es u ⟨hu, rfl, has⟩
    exact carryFirstAuthor_meets (h.later hu) has
  · exact ⟨rfl, [], [], by simpa using h, fun x hx => absurd hx List.not_mem_nil⟩

/-- A wish as a candidate. -/
def Wish.candidate (w : Wish) : Candidate := ⟨w.group, .text w.userId⟩

/-- The directory as it is computed from the tables. -/
def directoryOf (base : Database) : Directory where
  editors type id contextId := base.subEditors ⟨type, .text id⟩ (.text contextId)
  groups userId contextId := base.groupsForUser (.text userId) (.text contextId)

lemma directoryOf_serves (now : Calendar.Moment) (base t : Database) :
    (directoryOf base).Serves (serving now base) (Later t) where
  may_editors _ _ _ := trivial
  editors _ _ _ _ _ _ _ hs h := ⟨h.2.1, h.2.2, hs.trans h.1⟩
  may_groups _ _ := trivial
  groups _ _ _ _ _ _ hs h := ⟨h.2.1, h.2.2, hs.trans h.1⟩

/-- What there is to choose from are the wishes for the sub-editors of the groupings. -/
lemma listing_directoryOf (base : Database) (s : Submission) :
    (directoryOf base).listing s =
      ((groupings s).flatMap (groupingWishes base s)).map Wish.candidate := by
  have hoffers : ∀ userId, (directoryOf base).offers s.contextId userId =
      (userWishes base s userId).map Wish.candidate := by
    intro userId
    unfold Directory.offers userWishes
    rw [List.map_map]
    rfl
  rw [Directory.listing, Directory.bound, groupings_eq, funext hoffers]
  simp only [groupingWishes, List.map_append, List.map_flatMap, List.flatMap_append,
    List.flatMap_map, List.flatMap_assoc]
  rfl

lemma candidates_wishes (t : Database) :
    (candidates s).Meets (serving now base) t fun found es u => Later t u ∧ es = [] ∧
      found = (subEditorWishes base s).map Wish.candidate := by
  have hkeys : ∀ w w' : Wish, w.candidate.key = w'.candidate.key ↔ w.key = w'.key := by
    intro w w'
    simp [Wish.candidate, Candidate.key, Wish.key]
  refine (candidates_meets (directoryOf_serves now base t) (.refl t) s).mono ?_
  rintro found es u ⟨hu, rfl, rfl⟩
  refine ⟨hu, rfl, ?_⟩
  rw [listing_directoryOf, distinctOn_map hkeys]
  rfl

lemma recommendOnly_of_mem {w : Wish} (hw : w ∈ subEditorWishes base s) :
    w.recommendOnly = w.group.recommendOnly := by
  obtain ⟨grouping, -, hw⟩ := List.mem_flatMap.1 (mem_of_mem_distinctOn hw)
  obtain ⟨userId, -, hw⟩ := List.mem_flatMap.1 hw
  obtain ⟨g, -, rfl⟩ := List.mem_map.1 hw
  rfl

/-- The last loop tries the sub-editors and puts those on the list whose groups are open. -/
lemma enrollSubEditors_meets (h : Trials now logs s ws ts p ds t)
    (hp : p.notify = (distinct users).map .text) :
    (enrollSubEditors logs s p).Meets (serving now base) t fun p' es u => ∃ more,
      Trials now logs s (ws ++ subEditorWishes base s) (ts ++ more) p' (ds ++ es) u ∧
        p'.notify = (distinct (users ++ ((subEditorWishes base s).filter
          (·.group.permits .intake)).map (·.userId))).map .text := by
  unfold enrollSubEditors
  rw [Program.meets_bind]
  refine (candidates_wishes t).mono ?_
  rintro found es u ⟨hu, rfl, rfl⟩
  simp only [List.nil_append]
  rw [List.foldlM_map]
  refine (Program.meets_foldlM _ (fun before p ds u => ∃ more,
    Trials now logs s (ws ++ before) (ts ++ more) p ds u ∧
      p.notify = (distinct (users ++
        (before.filter (·.group.permits .intake)).map (·.userId))).map .text)
    _ ?_ ⟨[], by simpa using h.later hu, by simpa using hp⟩).mono fun p ds t h => h
  rintro before w hw p ds u ⟨more, hmore, hp⟩
  have hwish : w = ⟨w.group, w.userId, w.group.recommendOnly⟩ := by
    rw [← recommendOnly_of_mem hw]
  unfold enrollCandidate
  rw [Program.meets_bind]
  refine (enroll_meets hmore ⟨w.group, w.userId, w.group.recommendOnly⟩).mono ?_
  rintro p' es v ⟨-, hnotify, last, hlast, -⟩
  rw [← hwish] at hlast
  simp only [List.append_assoc] at hlast ⊢
  simp only [Program.meets_pure, List.append_nil]
  have hopen : w.candidate.group.permits .intake = w.group.permits .intake := rfl
  refine ⟨more ++ last, ?_, ?_⟩
  · split
    · exact hlast.note _
    · exact hlast
  · rw [hopen, List.filter_append]
    cases hpermits : w.group.permits .intake with
    | true =>
      rw [if_pos rfl, Wish.candidate, notify_note (hnotify.trans hp)]
      simp [hpermits]
    | false =>
      rw [if_neg Bool.false_ne_true, hnotify, hp]
      simp [hpermits]

end EditorialDesk.Intake
