import EditorialDesk.Intake.Routine
import EditorialDesk.Proofs.Intake.Distinct
import EditorialDesk.Proofs.Program.Contract
import EditorialDesk.Proofs.Value.Alike
import EditorialDesk.Store.Memory

/-!
# The candidates among the sub-editors

Whoever answers for the directory by what is asked, and not by the time, leads to one list
of candidates: all that the section and then the categories bring in, each group and user
at the first occurrence. More categories make the list longer at its end, and a category
whose sub-editors have all come before does not change it.
-/
namespace EditorialDesk.Intake

/-- A directory that answers by what is asked: the sub-editors that are bound to a section or a
category, and the groups of a user. -/
structure Directory where
  editors (type : GroupingType) (id contextId : String) : List String
  groups (userId contextId : String) : List UserGroup

/-- What tells candidates apart. -/
def Candidate.key (c : Candidate) : String × Value := (c.group.id, c.userId)

/-- The section of a submission, unless it has none or the empty one. -/
def sections (s : Submission) : List String := s.sectionId.toList.filter (· ≠ "")

namespace Directory

/-- The users bound to the section of a submission and then those bound to each of some categories,
repeats included. -/
def bound (d : Directory) (s : Submission) (categoryIds : List String) : List String :=
  (sections s).flatMap (d.editors .journalSection · s.contextId) ++
    categoryIds.flatMap (d.editors .category · s.contextId)

/-- A user with each of the groups in which they are a sub-editor. -/
def offers (d : Directory) (contextId userId : String) : List Candidate :=
  ((d.groups userId contextId).filter (·.role == .subEditor)).map (⟨·, .text userId⟩)

/-- All that there is to choose from, repeats included. -/
def listing (d : Directory) (s : Submission) : List Candidate :=
  (d.bound s s.categoryIds).flatMap (d.offers s.contextId)

/-- Under a contract the directory answers: its lists are what comes back, nothing is done, and an
invariant of the states is kept. -/
structure Serves {σ δ : Type} (d : Directory) (C : Contract Request Request.Answer σ δ)
    (inv : σ → Prop) : Prop where
  may_editors : ∀ type id contextId, C.may (.subEditors ⟨type, .text id⟩ (.text contextId))
  editors : ∀ type id contextId s r ds t, inv s →
    C.answers s (.subEditors ⟨type, .text id⟩ (.text contextId)) r ds t →
      r = (d.editors type id contextId).map .text ∧ ds = [] ∧ inv t
  may_groups : ∀ userId contextId, C.may (.groupsForUser (.text userId) (.text contextId))
  groups : ∀ userId contextId s r ds t, inv s →
    C.answers s (.groupsForUser (.text userId) (.text contextId)) r ds t →
      r = d.groups userId contextId ∧ ds = [] ∧ inv t

end Directory

section Plan

variable {σ δ : Type} {C : Contract Request Request.Answer σ δ} {inv : σ → Prop} {d : Directory}
variable {s : σ}

/-- The groups of a user are added as to a list without repeats. -/
lemma addCandidates_eq (cs : List Candidate) (userId : String) (groups : List UserGroup) :
    addCandidates (distinctOn Candidate.key cs) (.text userId) groups =
      distinctOn Candidate.key (cs ++ groups.map (⟨·, .text userId⟩)) := by
  induction groups generalizing cs with
  | nil => simp [addCandidates]
  | cons g rest ih =>
    have hany : (distinctOn Candidate.key cs).any
        (fun c => c.group.id == g.id && c.userId.alike (.text userId)) = true ↔
          Candidate.key ⟨g, .text userId⟩ ∈ cs.map Candidate.key := by
      rw [← mem_map_distinctOn, List.any_eq_true, List.mem_map]
      simp [Candidate.key, Value.alike_text_right]
    have hstep : (if (distinctOn Candidate.key cs).any
        (fun c => c.group.id == g.id && c.userId.alike (.text userId)) = true
          then distinctOn Candidate.key cs
          else distinctOn Candidate.key cs ++ [⟨g, .text userId⟩]) =
        distinctOn Candidate.key (cs ++ [⟨g, .text userId⟩]) := by
      rw [distinctOn_concat]
      by_cases hmem : Candidate.key ⟨g, .text userId⟩ ∈ cs.map Candidate.key
      · rw [if_pos (hany.2 hmem), if_pos hmem]
      · rw [if_neg (mt hany.1 hmem), if_neg hmem]
    unfold addCandidates at ih ⊢
    rw [List.foldl_cons, hstep, ih, List.map_cons, List.append_assoc, List.singleton_append]

/-- One grouping: its users are gone through in order. -/
lemma groupingCandidates_meets (hd : d.Serves C inv) (hs : inv s) (cs : List Candidate)
    (type : GroupingType) (id contextId : String) :
    (groupingCandidates contextId (distinctOn Candidate.key cs) ⟨type, .text id⟩).Meets C s
      fun found ds t => inv t ∧ ds = [] ∧ found = distinctOn Candidate.key
        (cs ++ (d.editors type id contextId).flatMap (d.offers contextId)) := by
  unfold groupingCandidates
  refine (Program.meets_request_bind _ _ _ _).2 ⟨hd.may_editors type id contextId, ?_⟩
  intro users ds t hanswer
  obtain ⟨rfl, rfl, ht⟩ := hd.editors type id contextId s users ds t hs hanswer
  rw [List.foldlM_map]
  refine Program.meets_foldlM _ (fun before found ds t => inv t ∧ ds = [] ∧
    found = distinctOn Candidate.key (cs ++ before.flatMap (d.offers contextId)))
    _ ?_ ⟨ht, rfl, by simp⟩
  rintro before userId - found ds t ⟨ht, rfl, rfl⟩
  refine (Program.meets_request_bind _ _ _ _).2 ⟨hd.may_groups userId contextId, ?_⟩
  intro groups ds u hanswer
  obtain ⟨rfl, rfl, hu⟩ := hd.groups userId contextId t groups ds u ht hanswer
  have hlast : (before ++ [userId]).flatMap (d.offers contextId) =
      before.flatMap (d.offers contextId) ++ d.offers contextId userId := by simp
  rw [hlast, ← List.append_assoc]
  unfold Directory.offers
  cases hgroups : (d.groups userId contextId).filter (·.role == .subEditor) with
  | nil => exact ⟨hu, rfl, by simp⟩
  | cons g rest =>
    simp only [Fault.named_text]
    exact ⟨hu, rfl, addCandidates_eq _ _ _⟩

/-- A submission is looked at by its section and then by its categories. -/
lemma groupings_eq (x : Submission) :
    groupings x = (sections x).map (⟨.journalSection, .text ·⟩) ++
      x.categoryIds.map (⟨.category, .text ·⟩) := by
  unfold groupings sections
  cases x.sectionId with
  | none => rfl
  | some id => by_cases hid : id = "" <;> simp [hid]

/-- Groupings of one type. -/
lemma groupings_meets (hd : d.Serves C inv) (hs : inv s) (cs : List Candidate)
    (type : GroupingType) (ids : List String) (contextId : String) :
    ((ids.map fun id => ⟨type, .text id⟩ : List Grouping).foldlM (groupingCandidates contextId)
      (distinctOn Candidate.key cs)).Meets C s fun found ds t => inv t ∧ ds = [] ∧
        found = distinctOn Candidate.key (cs ++
          (ids.flatMap (d.editors type · contextId)).flatMap (d.offers contextId)) := by
  rw [List.foldlM_map]
  refine Program.meets_foldlM _ (fun before found ds t => inv t ∧ ds = [] ∧
    found = distinctOn Candidate.key (cs ++
      (before.flatMap (d.editors type · contextId)).flatMap (d.offers contextId)))
    _ ?_ ⟨hs, rfl, by simp⟩
  rintro before id - found ds t ⟨ht, rfl, rfl⟩
  refine (groupingCandidates_meets hd ht _ type id contextId).mono ?_
  rintro found ds u ⟨hu, rfl, rfl⟩
  exact ⟨hu, rfl, by simp⟩

/-- The candidates are the first occurrences in all that there is to choose from. -/
theorem candidates_meets (hd : d.Serves C inv) (hs : inv s) (x : Submission) :
    (candidates x).Meets C s fun found ds t =>
      inv t ∧ ds = [] ∧ found = distinctOn Candidate.key (d.listing x) := by
  unfold candidates
  rw [groupings_eq, List.foldlM_append, Program.meets_bind]
  refine (groupings_meets hd hs [] .journalSection (sections x) x.contextId).mono ?_
  rintro found ds t ⟨ht, rfl, rfl⟩
  refine (groupings_meets hd ht _ .category x.categoryIds x.contextId).mono ?_
  rintro found ds u ⟨hu, rfl, rfl⟩
  refine ⟨hu, rfl, ?_⟩
  simp [Directory.listing, Directory.bound]

end Plan

section Run

variable {τ : Type} {serve : (q : Request) → τ → Except Fault q.Answer × τ} {inv : τ → Prop}
variable {d : Directory} {t : τ} {x y : Submission}

/-- While an invariant of the states holds, requests are answered by the lists of the directory, and
the invariant is kept. -/
structure Directory.Answers (d : Directory) (serve : (q : Request) → τ → Except Fault q.Answer × τ)
    (inv : τ → Prop) : Prop where
  editors : ∀ type id contextId t, inv t → ∃ t',
    serve (.subEditors ⟨type, .text id⟩ (.text contextId)) t =
      (.ok ((d.editors type id contextId).map .text), t') ∧ inv t'
  groups : ∀ userId contextId t, inv t → ∃ t',
    serve (.groupsForUser (.text userId) (.text contextId)) t =
      (.ok (d.groups userId contextId), t') ∧ inv t'

/-- The requests by which candidates are looked for. -/
inductive Looks : Request → Prop
  | editors (type : GroupingType) (id contextId : String) :
      Looks (.subEditors ⟨type, .text id⟩ (.text contextId))
  | groups (userId contextId : String) : Looks (.groupsForUser (.text userId) (.text contextId))

/-- What is answered to these requests is what they are answered by. -/
def looking (serve : (q : Request) → τ → Except Fault q.Answer × τ) :
    Contract Request Request.Answer τ Unit where
  may := Looks
  answers s q r ds t := serve q s = (.ok r, t) ∧ ds = []

lemma Directory.Answers.serves (hd : d.Answers serve inv) : d.Serves (looking serve) inv where
  may_editors := .editors
  editors type id contextId s r ds t hs hanswer := by
    obtain ⟨t', ht', hinv⟩ := hd.editors type id contextId s hs
    obtain ⟨hserve, rfl⟩ := hanswer
    obtain ⟨hr, rfl⟩ := Prod.mk.inj (ht'.symm.trans hserve)
    exact ⟨(Except.ok.inj hr).symm, rfl, hinv⟩
  may_groups := .groups
  groups userId contextId s r ds t hs hanswer := by
    obtain ⟨t', ht', hinv⟩ := hd.groups userId contextId s hs
    obtain ⟨hserve, rfl⟩ := hanswer
    obtain ⟨hr, rfl⟩ := Prod.mk.inj (ht'.symm.trans hserve)
    exact ⟨(Except.ok.inj hr).symm, rfl, hinv⟩

theorem candidates_run (hd : d.Answers serve inv) (ht : inv t) (x : Submission) :
    ∃ t', (candidates x).run serve t = (.ok (distinctOn Candidate.key (d.listing x)), t') ∧
      inv t' := by
  have hserve : ∀ q t s, (looking serve).may q → t = s ∧ inv s → ∃ r t' ds s',
      serve q t = (.ok r, t') ∧ (looking serve).answers s q r ds s' ∧ t' = s' ∧ inv s' := by
    rintro q t s hq ⟨rfl, ht⟩
    cases hq with
    | editors type id contextId =>
      obtain ⟨t', hanswer, ht'⟩ := hd.editors type id contextId t ht
      exact ⟨_, t', [], t', hanswer, ⟨hanswer, rfl⟩, rfl, ht'⟩
    | groups userId contextId =>
      obtain ⟨t', hanswer, ht'⟩ := hd.groups userId contextId t ht
      exact ⟨_, t', [], t', hanswer, ⟨hanswer, rfl⟩, rfl, ht'⟩
  obtain ⟨found, t', ds, s', hrun, ⟨hinv, -, rfl⟩, rfl, -⟩ :=
    (candidates_meets hd.serves ht x).run hserve ⟨rfl, ht⟩
  exact ⟨t', hrun, hinv⟩

end Run

/-! ## More categories and fewer -/

/-- The first submission as it is with the given categories. -/
structure Reclassified (x y : Submission) (categoryIds : List String) : Prop where
  contextId : y.contextId = x.contextId
  sectionId : y.sectionId = x.sectionId
  categoryIds : y.categoryIds = categoryIds

section Classes

variable {d : Directory} {x y : Submission} {earlier later more : List String} {id : String}

lemma Reclassified.listing_eq (h : Reclassified x y more) :
    d.listing y = (d.bound x more).flatMap (d.offers x.contextId) := by
  have hsections : sections y = sections x := by
    unfold sections
    rw [h.sectionId]
  unfold Directory.listing Directory.bound
  rw [hsections, h.contextId, h.categoryIds]

/-- The users of more categories come behind those of the first. -/
lemma Directory.bound_append : d.bound x (earlier ++ later) =
    d.bound x earlier ++ later.flatMap (d.editors .category · x.contextId) := by
  simp [Directory.bound]

/-- Behind a list of categories more of them only add candidates at the end. -/
lemma listing_append (h : Reclassified x y (x.categoryIds ++ more)) :
    ∃ extra, distinctOn Candidate.key (d.listing y) =
      distinctOn Candidate.key (d.listing x) ++ extra := by
  rw [h.listing_eq, Directory.bound_append, List.flatMap_append]
  obtain ⟨extra, hextra, -⟩ := distinctOn_append Candidate.key (d.listing x)
    ((more.flatMap (d.editors .category · x.contextId)).flatMap (d.offers x.contextId))
  exact ⟨extra, hextra⟩

/-- A category brings in nothing if its users have all come before. -/
lemma listing_without (hx : x.categoryIds = earlier ++ id :: later)
    (hbound : ∀ userId ∈ d.editors .category id x.contextId, userId ∈ d.bound x earlier)
    (h : Reclassified x y (earlier ++ later)) :
    distinctOn Candidate.key (d.listing y) = distinctOn Candidate.key (d.listing x) := by
  have hself : Reclassified x x (earlier ++ id :: later) := ⟨rfl, rfl, hx⟩
  have hkeys : ∀ c ∈ (d.editors .category id x.contextId).flatMap (d.offers x.contextId),
      c.key ∈ ((d.bound x earlier).flatMap (d.offers x.contextId)).map Candidate.key := by
    intro c hc
    obtain ⟨userId, huser, hc⟩ := List.mem_flatMap.1 hc
    exact List.mem_map_of_mem (List.mem_flatMap.2 ⟨userId, hbound userId huser, hc⟩)
  rw [h.listing_eq, hself.listing_eq, Directory.bound_append, Directory.bound_append,
    List.flatMap_cons, List.flatMap_append, List.flatMap_append, List.flatMap_append,
    ← List.append_assoc]
  exact (distinctOn_append_congr (distinctOn_append_of_subset hkeys) _).symm

/-- The users of a category that is repeated have come before. -/
lemma mem_bound_of_mem (hid : id ∈ earlier) {userId : String}
    (huser : userId ∈ d.editors .category id x.contextId) : userId ∈ d.bound x earlier :=
  List.mem_append_right _ (List.mem_flatMap.2 ⟨id, hid, huser⟩)

end Classes

/-- With whoever answers for a directory the candidates are the first occurrences, by group and
user, in all that there is to choose from. More categories add candidates at the end only, and
one that is repeated, or whose users are all bound to the section or to earlier categories, is
as good as none. -/
theorem candidates_grow {τ : Type} {serve : (q : Request) → τ → Except Fault q.Answer × τ}
    {inv : τ → Prop} {d : Directory} (hd : d.Answers serve inv) (x : Submission) :
    ∃ found, (found.map Candidate.key).Nodup ∧ found = distinctOn Candidate.key (d.listing x) ∧
      (∀ t, inv t → ∃ t', (candidates x).run serve t = (.ok found, t') ∧ inv t') ∧
      (∀ y more, Reclassified x y (x.categoryIds ++ more) → ∃ extra, ∀ t, inv t →
        ∃ t', (candidates y).run serve t = (.ok (found ++ extra), t') ∧ inv t') ∧
      ∀ y earlier id later, x.categoryIds = earlier ++ id :: later →
        Reclassified x y (earlier ++ later) →
        (id ∈ earlier ∨
          ∀ userId ∈ d.editors .category id x.contextId, userId ∈ d.bound x earlier) →
        ∀ t, inv t → ∃ t', (candidates y).run serve t = (.ok found, t') ∧ inv t' := by
  refine ⟨distinctOn Candidate.key (d.listing x), nodup_map_distinctOn _ _, rfl, ?_, ?_, ?_⟩
  · intro t ht
    exact candidates_run hd ht x
  · intro y more hy
    obtain ⟨extra, hextra⟩ := listing_append (d := d) hy
    refine ⟨extra, fun t ht => ?_⟩
    rw [← hextra]
    exact candidates_run hd ht y
  · intro y earlier id later hx hy hbefore t ht
    have hbound : ∀ userId ∈ d.editors .category id x.contextId, userId ∈ d.bound x earlier := by
      rcases hbefore with hid | hbound
      · exact fun userId huser => mem_bound_of_mem hid huser
      · exact hbound
    rw [← listing_without hx hbound hy]
    exact candidates_run hd ht y

/-! ## A directory in memory -/

/-- The directory of a store in memory. -/
def memoryDirectory (m : Store.Memory) : Directory where
  editors type id _ := (m.bindings.filter fun b =>
    b.grouping.type == type && b.grouping.id.alike (.text id)).map (·.userId.label)
  groups userId contextId := m.groupsForUser (.text userId) (.text contextId)

/-- In a store in memory the directory answers by its lists, if users are named by texts. -/
theorem memoryDirectory_answers {m : Store.Memory} (houtages : m.outages = [])
    (husers : ∀ b ∈ m.bindings, ∃ name, b.userId = .text name) (clock : Reading Calendar.Moment) :
    (memoryDirectory m).Answers (Store.Memory.serve clock) (· = m) where
  editors type id contextId t ht := by
    refine ⟨m, ?_, rfl⟩
    have hanswer : m.subEditors ⟨type, .text id⟩ =
        .ok (((memoryDirectory m).editors type id contextId).map .text) := by
      unfold Store.Memory.subEditors memoryDirectory
      rw [Fault.named_text, List.map_map]
      refine congrArg Except.ok (List.map_congr_left fun b hb => ?_)
      obtain ⟨name, hname⟩ := husers b (List.mem_filter.1 hb).1
      simp [hname]
    rw [ht, Store.Memory.serve, houtages]
    simp only [List.find?_nil, Store.Memory.answer, hanswer]
  groups userId contextId t ht := by
    refine ⟨m, ?_, rfl⟩
    rw [ht, Store.Memory.serve, houtages]
    rfl

/-- Two sub-editors with groups of their own: one of them is bound to a section and to a category,
the other to another category. -/
def twoDesks : Store.Memory where
  rosters := [⟨⟨"g-1", "ctx-1", .subEditor, "", false, []⟩, [.text "u-1"]⟩,
    ⟨⟨"g-2", "ctx-1", .subEditor, "", false, []⟩, [.text "u-2"]⟩]
  bindings := [⟨⟨.journalSection, .text "sec-1"⟩, .text "u-1"⟩,
    ⟨⟨.category, .text "cat-1"⟩, .text "u-1"⟩, ⟨⟨.category, .text "cat-2"⟩, .text "u-2"⟩]
  assignments := []
  attempts := []
  emitted := []
  withdrawn := []
  events := []
  outages := []

/-- A submission to the section, in some categories. -/
def classed (categoryIds : List String) : Submission :=
  ⟨"sub-1", "ctx-1", some "sec-1", some ⟨"pub-1", categoryIds⟩, 4, none, none, none⟩

theorem twoDesks_candidates :
    (memoryDirectory twoDesks).Answers (Store.Memory.serve (.fails .badValue)) (· = twoDesks) ∧
      ∃ found, found.map Candidate.key = [("g-1", .text "u-1"), ("g-2", .text "u-2")] ∧
        (∃ t', (candidates (classed ["cat-1", "cat-2"])).run
          (Store.Memory.serve (.fails .badValue)) twoDesks = (.ok found, t')) ∧
        (∃ extra t', (candidates (classed ["cat-1", "cat-2", "cat-3"])).run
          (Store.Memory.serve (.fails .badValue)) twoDesks = (.ok (found ++ extra), t')) ∧
        ∃ t', (candidates (classed ["cat-2"])).run
          (Store.Memory.serve (.fails .badValue)) twoDesks = (.ok found, t') := by
  have husers : ∀ b ∈ twoDesks.bindings, ∃ name, b.userId = .text name := by
    simp [twoDesks]
  have hanswers := memoryDirectory_answers (m := twoDesks) rfl husers (.fails .badValue)
  obtain ⟨found, -, hfound, hrun, hgrow, hwithout⟩ :=
    candidates_grow hanswers (classed ["cat-1", "cat-2"])
  obtain ⟨t, ht, -⟩ := hrun twoDesks rfl
  obtain ⟨extra, hextra⟩ := hgrow (classed ["cat-1", "cat-2", "cat-3"]) ["cat-3"] ⟨rfl, rfl, rfl⟩
  obtain ⟨v, hv, -⟩ := hextra twoDesks rfl
  obtain ⟨u, hu, -⟩ := hwithout (classed ["cat-2"]) [] "cat-1" ["cat-2"] rfl ⟨rfl, rfl, rfl⟩
    (.inr (by decide)) twoDesks rfl
  exact ⟨hanswers, found, by rw [hfound]; decide, ⟨t, ht⟩, ⟨extra, v, hv⟩, u, hu⟩

end EditorialDesk.Intake
