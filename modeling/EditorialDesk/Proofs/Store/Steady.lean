import EditorialDesk.Intake.Request
import EditorialDesk.Proofs.Program.Dialogue
import EditorialDesk.Proofs.Store.Padded

/-!
# Steady stores

A store is steady if it stands by its answers. What it has told of the directory it tells
again in every later state, a notification that it took it takes again, and a seat that
was asked for is taken from then on. The list of a user's assignments may grow, but only
by groups that the directory has told of, none of them one of authors.

A plan is repeated on such a store after it has come to a result there, perhaps from
other starting points and at other moments. Two plans are compared rule by rule, like
their requests: the second comes to the result that the first one determines, and leaves
assignments, log and submissions as they are.
-/
namespace EditorialDesk

namespace Store

/-- Whether a request looks something up in the directory. -/
def consults : Request → Bool
  | .groupsForStage .. | .groupsForUser .. | .group _ | .members .. | .subEditors .. |
    .managers _ => true
  | _ => false

/-- Whether a request makes or withdraws notifications. -/
def tells : Request → Bool
  | .notify _ | .withdraw .. => true
  | _ => false

/-- A moment as the clock of the stores shows it. -/
abbrev UtcMoment : Type := { now : Calendar.Moment // now.offset = some .utc }

/-- What runs at several moments one after the other come to, each of them on the state that the one
before has left: their results, and the states behind them. -/
def successive {σ α : Type} (run : UtcMoment → σ → Except Fault α × σ) :
    List UtcMoment → σ → List (Except Fault α × σ)
  | [], _ => []
  | k :: rest, s => run k s :: successive run rest (run k s).2

/-- The request for the assignments of a user to a submission. -/
abbrev ownAssignments (submissionId : String) (userId : Value) : Request :=
  .assignments ⟨.text submissionId, none, none, some userId⟩

/-- An assignment through a known group, which is not one of authors. -/
def ThroughEditors (knows : UserGroup → Prop) (a : StageAssignment) : Prop :=
  ∃ g, knows g ∧ g.id = a.seat.groupId ∧ g.role ≠ .author

/-- A store, and the laws by which it stands by its answers. -/
structure Steady (σ : Type) where
  serve : UtcMoment → (q : Request) → σ → Except Fault q.Answer × σ
  /-- What holds of every state of the store. -/
  Sound : σ → Prop
  /-- A state in which what was told still holds. -/
  Later : σ → σ → Prop
  /-- A later state with the same assignments, log and submissions. -/
  Idle : σ → σ → Prop
  /-- The directory has told of a group, and tells of it when asked for its identity. -/
  Knows : UserGroup → σ → Prop
  later_refl : ∀ s, Later s s
  idle_refl : ∀ s, Idle s s
  later_trans : ∀ {s t u}, Later s t → Later t u → Later s u
  idle_trans : ∀ {s t u}, Idle s t → Idle t u → Idle s u
  later_of_idle : ∀ {s t}, Idle s t → Later s t
  sound_later : ∀ {s t}, Sound s → Later s t → Sound t
  knows_later : ∀ {g s t}, Knows g s → Later s t → Knows g t
  consulted : ∀ {k q s t r}, consults q = true → Sound s → serve k q s = (.ok r, t) →
    Idle s t ∧ ∀ k' u, Later t u → ∃ u', serve k' q u = (.ok r, u') ∧ Idle u u'
  told : ∀ {k q s t r}, tells q = true → Sound s → serve k q s = (.ok r, t) →
    Idle s t ∧ ∀ k' u, Later t u → ∃ r' u', serve k' q u = (.ok r', u') ∧ Idle u u'
  logged : ∀ {k e s t r}, Sound s → serve k (.log e) s = (.ok r, t) → Later s t
  knows_of_stage : ∀ {k contextId stage s t gs}, Sound s →
    serve k (.groupsForStage contextId stage) s = (.ok gs, t) → ∀ g ∈ gs, Knows g t
  knows_of_user : ∀ {k userId contextId s t gs}, Sound s →
    serve k (.groupsForUser userId contextId) s = (.ok gs, t) → ∀ g ∈ gs, Knows g t
  known : ∀ {k g s}, Sound s → Knows g s → ∃ g' t,
    serve k (.group (.text g.id)) s = (.ok (some g'), t) ∧ g'.role = g.role ∧ Idle s t
  group_id : ∀ {k id g s t}, Sound s → serve k (.group (.text id)) s = (.ok (some g), t) → g.id = id
  enrolled : ∀ {k e s t r}, Sound s → serve k (.enroll e) s = (.ok r, t) →
    (r = none ∨ ∃ g, Knows g s ∧ e.groupId = .text g.id ∧ g.role ≠ .author) →
    Later s t ∧ ∀ k' u, Later t u → ∃ u', serve k' (.enroll e) u = (.ok none, u') ∧ Idle u u'
  listed : ∀ {k id userId s t} {found : List StageAssignment}, Sound s →
    serve k (ownAssignments id userId) s = (.ok found, t) →
    Idle s t ∧ ∀ k' u, Later t u → ∃ (more : List StageAssignment) (u' : σ),
      serve k' (ownAssignments id userId) u = (.ok more, u') ∧ Idle u u' ∧
      Padded (ThroughEditors (Knows · u)) found more
  seated : ∀ {k k' id userId s t u v} {found : List StageAssignment} {a : StageAssignment} {flag r},
    Sound s →
    serve k (ownAssignments id userId) s = (.ok found, t) → a ∈ found → Later t u →
    serve k' (.enroll ⟨.text id, .text a.seat.groupId, .text a.seat.userId, flag⟩) u = (.ok r, v) →
    r = none

namespace Steady

variable {σ α β γ δ : Type} (x : Steady σ)

/-- Once the first plan has come to a result from the state `s`, the second one comes to a result
that goes with it, from every later state and at every moment. -/
def Repeats (p : Plan α) (p' : Plan β) (s : σ) (post : α → β → σ → Prop) : Prop :=
  x.Sound s → ∀ k a t, p.run (x.serve k) s = (.ok a, t) → x.Later s t ∧
    ∃ b, post a b t ∧ ∀ k' u, x.Later t u → ∃ u', p'.run (x.serve k') u = (.ok b, u') ∧ x.Idle u u'

variable {x} {p : Plan α} {p' : Plan β} {s : σ} {post : α → β → σ → Prop}

lemma throughEditors_later {a : StageAssignment} {t : σ}
    (h : ThroughEditors (x.Knows · s) a) (ht : x.Later s t) : ThroughEditors (x.Knows · t) a := by
  obtain ⟨g, hg, ha⟩ := h
  exact ⟨g, x.knows_later hg ht, ha⟩

lemma Repeats.mono (h : x.Repeats p p' s post) {post' : α → β → σ → Prop}
    (hpost : ∀ a b t, x.Later s t → post a b t → post' a b t) : x.Repeats p p' s post' := by
  intro hs k a t hrun
  obtain ⟨hlater, b, hb, hagain⟩ := h hs k a t hrun
  exact ⟨hlater, b, hpost a b t hlater hb, hagain⟩

lemma Repeats.bind {f : α → Plan γ} {f' : β → Plan δ} {post' : γ → δ → σ → Prop}
    (h : x.Repeats p p' s post)
    (hf : ∀ a b t, x.Later s t → post a b t → x.Repeats (f a) (f' b) t post') :
    x.Repeats (p >>= f) (p' >>= f') s post' := by
  intro hs k c t hrun
  obtain ⟨a, m, hfirst, hsecond⟩ := Program.run_bind_eq_ok.1 hrun
  obtain ⟨hm, b, hb, hagain⟩ := h hs k a m hfirst
  obtain ⟨ht, d, hd, hrest⟩ := hf a b m hm hb (x.sound_later hs hm) k c t hsecond
  refine ⟨x.later_trans hm ht, d, hd, fun k' u hu => ?_⟩
  obtain ⟨v, hv, hidle⟩ := hagain k' u (x.later_trans ht hu)
  obtain ⟨w, hw, hidle'⟩ := hrest k' v (x.later_trans hu (x.later_of_idle hidle))
  exact ⟨w, Program.run_bind_eq_ok.2 ⟨b, v, hv, hw⟩, x.idle_trans hidle hidle'⟩

lemma repeats_pure {a : α} {b : β} (h : post a b s) :
    x.Repeats (pure a : Plan α) (pure b : Plan β) s post := by
  intro _ k a' t hrun
  obtain ⟨rfl, rfl⟩ := Program.run_pure_eq_ok.1 hrun
  exact ⟨x.later_refl s, b, h, fun k' u _ => ⟨u, rfl, x.idle_refl u⟩⟩

lemma repeats_ofExcept_bind {r : Except Fault γ} {f : γ → Plan α} {f' : γ → Plan β}
    (h : ∀ c, r = .ok c → x.Repeats (f c) (f' c) s post) :
    x.Repeats (Program.ofExcept r >>= f) (Program.ofExcept r >>= f') s post := by
  cases r with
  | error e =>
    intro _ k a t hrun
    cases hrun
  | ok c => exact h c rfl

lemma repeats_consult {q : Request} (hq : consults q = true) :
    x.Repeats (Program.request q) (Program.request q) s
      fun r r' t => r = r' ∧ ∃ k, x.serve k q s = (.ok r, t) := by
  intro hs k r t hrun
  rw [Program.run_request_eq_ok] at hrun
  obtain ⟨hidle, hagain⟩ := x.consulted hq hs hrun
  refine ⟨x.later_of_idle hidle, r, ⟨rfl, k, hrun⟩, fun k' u hu => ?_⟩
  obtain ⟨u', hu', hidle'⟩ := hagain k' u hu
  exact ⟨u', Program.run_request_eq_ok.2 hu', hidle'⟩

/-- What is told can be told again; what is answered is of no matter. -/
lemma repeats_tell_bind {q : Request} (hq : tells q = true) {rest : Plan α} {rest' : Plan β}
    (h : ∀ t, x.Later s t → x.Repeats rest rest' t post) :
    x.Repeats (Program.request q >>= fun _ => rest) (Program.request q >>= fun _ => rest') s
      post := by
  intro hs k a t hrun
  obtain ⟨r, m, hfirst, hsecond⟩ := Program.run_bind_eq_ok.1 hrun
  rw [Program.run_request_eq_ok] at hfirst
  obtain ⟨hidle, hagain⟩ := x.told hq hs hfirst
  have hm : x.Later s m := x.later_of_idle hidle
  obtain ⟨ht, b, hb, hrest⟩ := h m hm (x.sound_later hs hm) k a t hsecond
  refine ⟨x.later_trans hm ht, b, hb, fun k' u hu => ?_⟩
  obtain ⟨r', v, hv, hidle'⟩ := hagain k' u (x.later_trans ht hu)
  obtain ⟨w, hw, hidle''⟩ := hrest k' v (x.later_trans hu (x.later_of_idle hidle'))
  exact ⟨w, Program.run_bind_eq_ok.2 ⟨r', v, Program.run_request_eq_ok.2 hv, hw⟩,
    x.idle_trans hidle' hidle''⟩

lemma repeats_foldlM {items : List γ} {f : α → γ → Plan α} {f' : β → γ → Plan β}
    {inv : α → β → σ → Prop}
    (hstep : ∀ c ∈ items, ∀ a b t, x.Later s t → inv a b t → x.Repeats (f a c) (f' b c) t inv)
    {a : α} {b : β} (h : inv a b s) :
    x.Repeats (items.foldlM f a) (items.foldlM f' b) s inv := by
  induction items generalizing a b s with
  | nil => exact repeats_pure h
  | cons c rest ih =>
    rw [List.foldlM_cons, List.foldlM_cons]
    refine (hstep c List.mem_cons_self a b s (x.later_refl s) h).bind fun a' b' t ht hinv => ?_
    exact ih (fun d hd a b u hu => hstep d (List.mem_cons_of_mem c hd) a b u
      (x.later_trans ht hu)) hinv

/-- Once a plan has come to a result, it comes to the same one as often as it is run again, and
changes nothing more. -/
theorem Repeats.further {post : α → β → σ → Prop} (h : x.Repeats p p' s post) (hs : x.Sound s)
    {k : UtcMoment} {a : α} {t : σ} (hrun : p.run (x.serve k) s = (.ok a, t)) :
    ∃ b, post a b t ∧ ∀ ks, ∀ r ∈ successive (fun k' => p'.run (x.serve k')) ks t,
      r.1 = .ok b ∧ x.Idle t r.2 := by
  obtain ⟨-, b, hb, hagain⟩ := h hs k a t hrun
  refine ⟨b, hb, fun ks => ?_⟩
  have hall : ∀ u, x.Idle t u → ∀ r ∈ successive (fun k' => p'.run (x.serve k')) ks u,
      r.1 = .ok b ∧ x.Idle t r.2 := by
    induction ks with
    | nil => exact fun u _ r hr => absurd hr List.not_mem_nil
    | cons k' rest ih =>
      intro u hu r hr
      obtain ⟨v, hv, hidle⟩ := hagain k' u (x.later_of_idle hu)
      have htv : x.Idle t v := x.idle_trans hu hidle
      rw [successive, hv] at hr
      rcases List.mem_cons.1 hr with rfl | hr
      · exact ⟨rfl, htv⟩
      · exact ih v htv r hr
  exact hall t (x.idle_refl t)

end Steady
end Store
end EditorialDesk
