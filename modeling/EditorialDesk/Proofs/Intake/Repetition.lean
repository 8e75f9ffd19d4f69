import EditorialDesk.Intake.Routine
import EditorialDesk.Proofs.Store.Steady

/-!
# Repetitions of the intake

A run that has come to an outcome on a steady store comes to it as often as it is
repeated, but that it enrols nobody any more. Its own enrolments may show among the
assignments of the submitter; they are of groups of editors, so that carrying over the
submitter passes over them and finds the author's group that it found before.
-/
namespace EditorialDesk.Intake

open Store

/-- The progress of a run that tries what was tried before. -/
def Progress.again (p : Progress) : Progress := { p with created := [] }

lemma Progress.again_note (p : Progress) (userId : Value) :
    (p.note userId).again = p.again.note userId := by
  unfold Progress.note Progress.again
  split <;> rfl

variable {σ : Type} {x : Steady σ} {logs : Bool} {s : Submission} {p : Progress} {t : σ}

/-- What a second run has come to, where the first one came to `p`. -/
def Follows (p p' : Progress) (_ : σ) : Prop := p' = p.again

lemma eq_of_named {v u : Value} (h : Fault.named v = .ok u) : u = v := by
  unfold Fault.named at h
  split at h
  · exact (Except.ok.inj h).symm
  · cases h

/-- A seat that was tried is tried in vain, if it was granted through a group of editors or not
granted at all. -/
theorem enroll_repeats {g : UserGroup} {userId : Value} {recommendOnly : Bool}
    (hsafe : x.Knows g t ∧ g.role ≠ .author ∨
      ∀ k r u, x.serve k (.enroll ⟨.text s.id, .text g.id, userId, .bool recommendOnly⟩) t =
        (.ok r, u) → r = none) :
    x.Repeats (enroll logs s p g userId recommendOnly)
      (enroll logs s p.again g userId recommendOnly) t Follows := by
  unfold enroll
  refine Steady.repeats_ofExcept_bind fun u hu => ?_
  obtain rfl : u = userId := eq_of_named hu
  set e : Enrollment := ⟨.text s.id, .text g.id, u, .bool recommendOnly⟩
  have hagain : p.again.seen = p.seen := rfl
  dsimp only
  rw [hagain]
  by_cases hseen : p.seen.any (·.sharesSeat e) = true
  · rw [if_pos hseen, if_pos hseen]
    exact Steady.repeats_pure rfl
  rw [if_neg hseen, if_neg hseen]
  intro hs k p' t' hrun
  obtain ⟨r, m, hfirst, hsecond⟩ := Program.run_bind_eq_ok.1 hrun
  rw [Plan.enroll?, Program.run_request_eq_ok] at hfirst
  have hgrant : r = none ∨ ∃ g, x.Knows g t ∧ e.groupId = .text g.id ∧ g.role ≠ .author :=
    hsafe.elim (fun h => .inr ⟨g, h.1, rfl, h.2⟩) fun h => .inl (h k r m hfirst)
  obtain ⟨hm, htaken⟩ := x.enrolled hs hfirst hgrant
  obtain ⟨hlater, hp'⟩ : x.Later m t' ∧ p'.again = { p.again with seen := p.seen ++ [e] } := by
    cases r with
    | none =>
      obtain ⟨rfl, rfl⟩ := Program.run_pure_eq_ok.1 hsecond
      exact ⟨x.later_refl m, rfl⟩
    | some a =>
      cases logs with
      | false =>
        obtain ⟨rfl, rfl⟩ := Program.run_pure_eq_ok.1 hsecond
        exact ⟨x.later_refl m, rfl⟩
      | true =>
        obtain ⟨entry, m', hlog, hlast⟩ := Program.run_bind_eq_ok.1 hsecond
        rw [Plan.log, Program.run_request_eq_ok] at hlog
        obtain ⟨rfl, rfl⟩ := Program.run_pure_eq_ok.1 hlast
        exact ⟨x.logged (x.sound_later hs hm) hlog, rfl⟩
  refine ⟨x.later_trans hm hlater, p'.again, rfl, fun k' u hu => ?_⟩
  obtain ⟨u', hu', hidle⟩ := htaken k' u (x.later_trans hlater hu)
  refine ⟨u', Program.run_bind_eq_ok.2 ⟨none, u', Program.run_request_eq_ok.2 hu', ?_⟩, hidle⟩
  exact Program.run_pure_eq_ok.2 ⟨hp'.symm, rfl⟩

theorem enrollSingleton_repeats {g : UserGroup} (hg : x.Knows g t) :
    x.Repeats (enrollSingleton logs s p g) (enrollSingleton logs s p.again g) t Follows := by
  unfold enrollSingleton
  by_cases hrole : g.role.isIntakeSingleton = true
  · rw [if_pos hrole, if_pos hrole]
    have hauthor : g.role ≠ .author := by
      intro h
      rw [h] at hrole
      exact absurd hrole (by decide)
    refine (Steady.repeats_consult rfl).bind fun members members' u hu hmembers => ?_
    obtain rfl : members = members' := hmembers.1
    split
    · next userId =>
      refine (enroll_repeats (.inl ⟨x.knows_later hg hu, hauthor⟩)).bind
        fun p' p'' v _ hp => Steady.repeats_pure ?_
      rw [Follows, hp, Progress.again_note]
    · exact Steady.repeats_pure rfl
  · rw [if_neg hrole, if_neg hrole]
    exact Steady.repeats_pure rfl

theorem enrollSingletons_repeats (hs : x.Sound t) :
    x.Repeats (enrollSingletons logs s p) (enrollSingletons logs s p.again) t Follows := by
  refine (Steady.repeats_consult rfl).bind fun gs gs' u hu hgs => ?_
  obtain ⟨rfl, k, hserve⟩ := hgs
  have hknown : ∀ g ∈ gs, x.Knows g u := x.knows_of_stage hs hserve
  refine Steady.repeats_foldlM (fun g hg p' p'' v hv hp => ?_) rfl
  rw [hp]
  exact enrollSingleton_repeats (x.knows_later (hknown g hg) hv)

/-- What is done with an assignment, once its group has been looked up. -/
def carryThrough (logs : Bool) (s : Submission) (p : Progress) (a : StageAssignment)
    (rest : List StageAssignment) : Option UserGroup → Plan Progress
  | some g =>
    if g.role == .author then enroll logs s p g (.text a.seat.userId) false
    else carryFirstAuthor logs s p rest
  | none => carryFirstAuthor logs s p rest

lemma carryFirstAuthor_cons (logs : Bool) (s : Submission) (p : Progress) (a : StageAssignment)
    (rest : List StageAssignment) : carryFirstAuthor logs s p (a :: rest) =
      Plan.group? (.text a.seat.groupId) >>= carryThrough logs s p a rest := by
  rw [carryFirstAuthor]
  congr 1

lemma carryThrough_of_ne_author {g : UserGroup} (hg : g.role ≠ .author) (a : StageAssignment)
    (rest : List StageAssignment) :
    carryThrough logs s p a rest (some g) = carryFirstAuthor logs s p rest := by
  simp [carryThrough, hg]

/-- Assignments through groups of editors are passed over. -/
lemma carryFirstAuthor_skip (logs : Bool) (s : Submission) (p : Progress)
    {before : List StageAssignment} (after : List StageAssignment) (hs : x.Sound t)
    (hbefore : ∀ a ∈ before, ThroughEditors (x.Knows · t) a) (k : UtcMoment) :
    ∃ u, x.Idle t u ∧ (carryFirstAuthor logs s p (before ++ after)).run (x.serve k) t =
      (carryFirstAuthor logs s p after).run (x.serve k) u := by
  induction before generalizing t with
  | nil => exact ⟨t, x.idle_refl t, rfl⟩
  | cons a rest ih =>
    obtain ⟨g, hknows, hid, hrole⟩ := hbefore a List.mem_cons_self
    obtain ⟨g', u, hserve, hrole', hidle⟩ := x.known (k := k) hs hknows
    rw [hid] at hserve
    have hu : x.Later t u := x.later_of_idle hidle
    have hrest : ∀ b ∈ rest, ThroughEditors (x.Knows · u) b := fun b hb =>
      Steady.throughEditors_later (hbefore b (List.mem_cons_of_mem a hb)) hu
    obtain ⟨v, hv, hrun⟩ := ih (x.sound_later hs hu) hrest
    refine ⟨v, x.idle_trans hidle hv, ?_⟩
    rw [List.cons_append, carryFirstAuthor_cons, Plan.group?, Program.run_request_bind_of_ok hserve,
      carryThrough_of_ne_author (hrole' ▸ hrole), hrun]

/-- The second time, the group of authors that was found is found again, even if there are more
assignments through groups of editors; the seat is taken, as it was. -/
theorem carryFirstAuthor_again {found : List StageAssignment} (hs : x.Sound t)
    (hseated : ∀ a ∈ found, ∀ k u flag r v, x.Later t u →
      x.serve k (.enroll ⟨.text s.id, .text a.seat.groupId, .text a.seat.userId, flag⟩) u =
        (.ok r, v) → r = none)
    {k : UtcMoment} {q : Progress} {t' : σ}
    (hrun : (carryFirstAuthor logs s p found).run (x.serve k) t = (.ok q, t')) :
    x.Later t t' ∧ ∀ k' u more, x.Later t' u → Padded (ThroughEditors (x.Knows · u)) found more →
      ∃ u', (carryFirstAuthor logs s p.again more).run (x.serve k') u = (.ok q.again, u') ∧
        x.Idle u u' := by
  induction found generalizing t with
  | nil =>
    obtain ⟨rfl, rfl⟩ := Program.run_pure_eq_ok.1 hrun
    refine ⟨x.later_refl t, fun k' u more hu hmore => ?_⟩
    obtain ⟨v, hv, hskip⟩ :=
      carryFirstAuthor_skip logs s p.again [] (x.sound_later hs hu) hmore.nil_left k'
    rw [List.append_nil] at hskip
    exact ⟨v, hskip.trans (Program.run_pure_eq_ok.2 ⟨rfl, rfl⟩), hv⟩
  | cons a rest ih =>
    rw [carryFirstAuthor_cons] at hrun
    obtain ⟨r, m, hfirst, hsecond⟩ := Program.run_bind_eq_ok.1 hrun
    rw [Plan.group?, Program.run_request_eq_ok] at hfirst
    obtain ⟨hidle, hagain⟩ := x.consulted rfl hs hfirst
    have hm : x.Later t m := x.later_of_idle hidle
    have hsm : x.Sound m := x.sound_later hs hm
    obtain ⟨hlater, hrest⟩ : x.Later m t' ∧ ∀ k' v after, x.Later t' v →
        Padded (ThroughEditors (x.Knows · v)) rest after →
        ∃ u', (carryThrough logs s p.again a after r).run (x.serve k') v = (.ok q.again, u') ∧
          x.Idle v u' := by
      have hcontinue := fun hrun => ih hsm (fun b hb k u flag r v hu =>
        hseated b (List.mem_cons_of_mem a hb) k u flag r v (x.later_trans hm hu)) hrun
      cases r with
      | none => exact hcontinue hsecond
      | some g =>
        by_cases hauthor : g.role = .author
        · simp only [carryThrough, hauthor, beq_self_eq_true, if_true] at hsecond ⊢
          have hid : g.id = a.seat.groupId := x.group_id hs hfirst
          have htaken := fun k r u => hid ▸ hseated a List.mem_cons_self k m (.bool false) r u hm
          obtain ⟨hlater, q', rfl, hagain'⟩ := enroll_repeats (.inr htaken) hsm k q t' hsecond
          exact ⟨hlater, fun k' v _ hv _ => hagain' k' v hv⟩
        · simp only [carryThrough_of_ne_author hauthor] at hsecond ⊢
          exact hcontinue hsecond
    refine ⟨x.later_trans hm hlater, fun k' u more hu hmore => ?_⟩
    obtain ⟨before, after, rfl, hbefore, hafter⟩ := hmore.cons_left
    have hsu : x.Sound u := x.sound_later hs (x.later_trans hm (x.later_trans hlater hu))
    obtain ⟨v, hv, hskip⟩ := carryFirstAuthor_skip logs s p.again (a :: after) hsu hbefore k'
    have huv : x.Later u v := x.later_of_idle hv
    obtain ⟨w, hw, hidle'⟩ := hagain k' v (x.later_trans hlater (x.later_trans hu huv))
    have huw : x.Later u w := x.later_trans huv (x.later_of_idle hidle')
    have hafter' : Padded (ThroughEditors (x.Knows · w)) rest after :=
      hafter.mono fun b hb => Steady.throughEditors_later hb huw
    obtain ⟨u', hu', hidle''⟩ := hrest k' w after (x.later_trans hu huw) hafter'
    refine ⟨u', ?_, x.idle_trans hv (x.idle_trans hidle' hidle'')⟩
    rw [hskip, carryFirstAuthor_cons, Plan.group?, Program.run_request_bind_of_ok hw]
    exact hu'

/-- The submitter is carried over to the same end, whatever this run and others have enrolled. -/
theorem carrySubmitter_repeats (submitter : Value) :
    x.Repeats (carrySubmitter logs s submitter p) (carrySubmitter logs s submitter p.again) t
      Follows := by
  unfold carrySubmitter
  split
  · intro hs k q t' hrun
    obtain ⟨found, m, hfirst, hsecond⟩ := Program.run_bind_eq_ok.1 hrun
    rw [Plan.assignments, Program.run_request_eq_ok] at hfirst
    obtain ⟨hidle, hagain⟩ := x.listed hs hfirst
    have hm : x.Later t m := x.later_of_idle hidle
    obtain ⟨hlater, hrest⟩ := carryFirstAuthor_again (x.sound_later hs hm)
      (fun a ha k' u flag r v hu => x.seated hs hfirst ha hu) hsecond
    refine ⟨x.later_trans hm hlater, q.again, rfl, fun k' u hu => ?_⟩
    obtain ⟨more, v, hv, hidle', hmore⟩ := hagain k' u (x.later_trans hlater hu)
    have huv : x.Later u v := x.later_of_idle hidle'
    have hmore' : Padded (ThroughEditors (x.Knows · v)) found more :=
      hmore.mono fun b hb => Steady.throughEditors_later hb huv
    obtain ⟨w, hw, hidle''⟩ := hrest k' v more (x.later_trans hu huv) hmore'
    refine ⟨w, ?_, x.idle_trans hidle' hidle''⟩
    exact Program.run_bind_eq_ok.2 ⟨more, v, Program.run_request_eq_ok.2 hv, hw⟩
  · exact Steady.repeats_pure rfl

/-- Candidates are of groups of sub-editors of which the directory told. -/
def AreKnown (x : Steady σ) (cs : List Candidate) (t : σ) : Prop :=
  ∀ c ∈ cs, x.Knows c.group t ∧ c.group.role = .subEditor

lemma AreKnown.later {cs : List Candidate} {u : σ} (h : AreKnown x cs t) (hu : x.Later t u) :
    AreKnown x cs u :=
  fun c hc => ⟨x.knows_later (h c hc).1 hu, (h c hc).2⟩

lemma forall_mem_addCandidates {P : Candidate → Prop} {found : List Candidate} {userId : Value}
    {gs : List UserGroup} (h : ∀ c ∈ found, P c) (hgs : ∀ g ∈ gs, P ⟨g, userId⟩) :
    ∀ c ∈ addCandidates found userId gs, P c := by
  unfold addCandidates
  induction gs generalizing found with
  | nil => exact h
  | cons g rest ih =>
    rw [List.foldl_cons]
    refine ih ?_ fun g' hg' => hgs g' (List.mem_cons_of_mem g hg')
    split
    · exact h
    · intro c hc
      rcases List.mem_append.1 hc with hc | hc
      · exact h c hc
      · rw [List.mem_singleton.1 hc]
        exact hgs g List.mem_cons_self

/-- The same candidates are found again. -/
theorem candidates_repeats (hs : x.Sound t) :
    x.Repeats (candidates s) (candidates s) t fun cs cs' u => cs = cs' ∧ AreKnown x cs u := by
  refine Steady.repeats_foldlM (fun grouping _ found found' u hu hfound => ?_)
    ⟨rfl, fun _ hc => absurd hc List.not_mem_nil⟩
  obtain ⟨rfl, hknown⟩ := hfound
  refine (Steady.repeats_consult rfl).bind fun users users' v hv husers => ?_
  obtain rfl : users = users' := husers.1
  refine Steady.repeats_foldlM (fun userId _ found found' w hw hfound => ?_)
    ⟨rfl, hknown.later hv⟩
  obtain ⟨rfl, hknown'⟩ := hfound
  refine (Steady.repeats_consult rfl).bind fun gs gs' y hy hgs => ?_
  obtain ⟨rfl, k, hserve⟩ := hgs
  have hsound : x.Sound w := x.sound_later hs (x.later_trans hu (x.later_trans hv hw))
  have heditors : ∀ g ∈ gs.filter (·.role == .subEditor), x.Knows g y ∧ g.role = .subEditor := by
    intro g hg
    obtain ⟨hmem, hrole⟩ := List.mem_filter.1 hg
    exact ⟨x.knows_of_user hsound hserve g hmem, beq_iff_eq.1 hrole⟩
  revert heditors
  cases gs.filter (·.role == .subEditor) with
  | nil => exact fun _ => Steady.repeats_pure ⟨rfl, hknown'.later hy⟩
  | cons g rest =>
    intro heditors
    refine Steady.repeats_ofExcept_bind fun userId' _ => Steady.repeats_pure ⟨rfl, ?_⟩
    exact forall_mem_addCandidates (hknown'.later hy) heditors

theorem enrollSubEditors_repeats (hs : x.Sound t) :
    x.Repeats (enrollSubEditors logs s p) (enrollSubEditors logs s p.again) t Follows := by
  refine (candidates_repeats hs).bind fun cs cs' u hu hcs => ?_
  obtain ⟨rfl, hknown⟩ := hcs
  refine Steady.repeats_foldlM (fun c hc p' p'' v hv hp => ?_) rfl
  obtain ⟨hgroup, hrole⟩ := hknown.later hv c hc
  have hauthor : c.group.role ≠ .author := by
    rw [hrole]
    decide
  rw [hp]
  refine (enroll_repeats (.inl ⟨hgroup, hauthor⟩)).bind fun q q' w _ hq =>
    Steady.repeats_pure ?_
  rw [Follows, hq]
  split
  · exact (q.again_note c.userId).symm
  · rfl

/-- The same users are told again. -/
theorem notifyAll_repeats (type : NotificationType) (level : NotificationLevel)
    (users : List Value) :
    x.Repeats (notifyAll s type level users) (notifyAll s type level users) t
      fun sent sent' _ => sent = sent' := by
  induction users generalizing t with
  | nil => exact Steady.repeats_pure rfl
  | cons userId rest ih =>
    rw [notifyAll]
    refine Steady.repeats_ofExcept_bind fun r _ => ?_
    refine Steady.repeats_tell_bind rfl fun u _ => ih.bind fun sent sent' v _ hsent => ?_
    exact Steady.repeats_pure (hsent ▸ rfl)

theorem route_repeats (created created' : List StageAssignment) (notify : List String) :
    x.Repeats (route s created notify) (route s created' notify) t
      fun o o' _ => o' = { o with created := created' } := by
  have hclose : ∀ (sent : List NotificationRequest) (escalated : Bool) (u : σ),
      x.Repeats (do
        let _ ← Plan.withdraw [.approveSubmission] .submission (.text s.id)
        return ⟨created, notify, sent, escalated⟩ : Plan Outcome) (do
        let _ ← Plan.withdraw [.approveSubmission] .submission (.text s.id)
        return ⟨created', notify, sent, escalated⟩ : Plan Outcome) u
        fun o o' _ => o' = { o with created := created' } :=
    fun sent escalated u => Steady.repeats_tell_bind rfl fun _ _ => Steady.repeats_pure rfl
  refine Steady.repeats_tell_bind rfl fun u hu => ?_
  dsimp only
  split
  · refine (Steady.repeats_consult rfl).bind fun managers managers' v _ hmanagers => ?_
    obtain rfl : managers = managers' := hmanagers.1
    refine Steady.repeats_ofExcept_bind fun users _ => ?_
    refine (notifyAll_repeats _ _ users).bind fun sent sent' w _ hsent => ?_
    rw [← hsent]
    simp only [pure_bind]
    exact hclose sent true w
  · refine (notifyAll_repeats _ _ _).bind fun sent sent' w _ hsent => ?_
    rw [← hsent]
    simp only [pure_bind]
    exact hclose sent false w

/-- A run that has come to an outcome comes to it again on every later state of a steady store, but
enrols nobody. -/
theorem run_repeats (hs : x.Sound t) (logs : Bool) (s : Submission) (submitter : Value) :
    x.Repeats (run logs s submitter) (run logs s submitter) t
      fun o o' _ => o' = { o with created := [] } := by
  unfold run
  refine (enrollSingletons_repeats (p := .start) hs).bind fun p p' u hu hp => ?_
  rw [hp]
  refine (carrySubmitter_repeats submitter).bind fun p p' v hv hp => ?_
  rw [hp]
  have hsv : x.Sound v := x.sound_later hs (x.later_trans hu hv)
  refine (enrollSubEditors_repeats hsv).bind fun p p' w _ hp => ?_
  rw [hp]
  have hnotified : notified p.again = notified p := rfl
  rw [hnotified]
  exact Steady.repeats_ofExcept_bind fun notify _ => route_repeats p.created [] notify

end EditorialDesk.Intake
