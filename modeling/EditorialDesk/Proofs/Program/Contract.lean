import EditorialDesk.Program

/-!
# Contracts of programs

A contract says which requests may be put, how they are answered in a state, what the
answer records as done, and which states can follow. A program meets a contract if it
puts only such requests and ends with a result, whatever the answers are; what it then
guarantees is a statement about the result, all that was done, and the last state.
-/
namespace EditorialDesk

/-- The two sides of a contract: what a program may ask, and how it is answered. -/
structure Contract (Ask : Type) (Answer : Ask → Type) (σ δ : Type) where
  may : Ask → Prop
  answers : σ → (q : Ask) → Answer q → List δ → σ → Prop

namespace Program

variable {Ask Ask' : Type} {Answer : Ask → Type} {Answer' : Ask' → Type}
variable {ε α β γ σ δ : Type} {C : Contract Ask Answer σ δ}

/-- The program asks what it may, and ends with a result of which `post` holds. -/
def Meets (C : Contract Ask Answer σ δ) :
    Program Ask Answer ε α → σ → (α → List δ → σ → Prop) → Prop
  | done a, s, post => post a [] s
  | fault _, _, _ => False
  | ask q next, s, post =>
    C.may q ∧ ∀ r ds s', C.answers s q r ds s' →
      (next r).Meets C s' fun a es t => post a (ds ++ es) t

@[simp] theorem meets_done (a : α) (s : σ) (post : α → List δ → σ → Prop) :
    (done a : Program Ask Answer ε α).Meets C s post ↔ post a [] s := Iff.rfl

@[simp] theorem meets_pure (a : α) (s : σ) (post : α → List δ → σ → Prop) :
    (pure a : Program Ask Answer ε α).Meets C s post ↔ post a [] s := Iff.rfl

theorem meets_request (q : Ask) (s : σ) (post : Answer q → List δ → σ → Prop) :
    (request q : Program Ask Answer ε (Answer q)).Meets C s post ↔
      C.may q ∧ ∀ r ds s', C.answers s q r ds s' → post r ds s' := by
  simp [request, Meets]

@[simp] theorem meets_ofExcept_ok (a : α) (s : σ) (post : α → List δ → σ → Prop) :
    (ofExcept (.ok a) : Program Ask Answer ε α).Meets C s post ↔ post a [] s := Iff.rfl

theorem Meets.mono {p : Program Ask Answer ε α} {s : σ} {post post' : α → List δ → σ → Prop}
    (hp : p.Meets C s post) (h : ∀ a ds t, post a ds t → post' a ds t) : p.Meets C s post' := by
  induction p generalizing s post post' with
  | done a => exact h a [] s hp
  | fault e => exact hp
  | ask q next ih =>
    exact ⟨hp.1, fun r ds s' hr => ih r (hp.2 r ds s' hr) fun a es t => h a (ds ++ es) t⟩

/-- A sequence guarantees what its second part guarantees after the first. -/
theorem meets_bind (p : Program Ask Answer ε α) (f : α → Program Ask Answer ε β) (s : σ)
    (post : β → List δ → σ → Prop) :
    (p >>= f).Meets C s post ↔
      p.Meets C s fun a ds t => (f a).Meets C t fun b es u => post b (ds ++ es) u := by
  change (p.bind f).Meets C s post ↔ _
  induction p generalizing s post with
  | done a => simp only [bind_done, meets_done, List.nil_append]
  | fault e => rfl
  | ask q next ih => simp only [bind, Meets, ih, List.append_assoc]

theorem meets_request_bind (q : Ask) (f : Answer q → Program Ask Answer ε β) (s : σ)
    (post : β → List δ → σ → Prop) :
    (request q >>= f).Meets C s post ↔
      C.may q ∧ ∀ r ds t, C.answers s q r ds t →
        (f r).Meets C t fun b es u => post b (ds ++ es) u := by
  rw [meets_bind, meets_request]

/-- A loop that has come some way keeps its invariant to the end. -/
theorem meets_foldlM_from (f : β → γ → Program Ask Answer ε β)
    (inv : List γ → β → List δ → σ → Prop) (xs : List γ)
    (hstep : ∀ before, ∀ x ∈ xs, ∀ b ds s, inv before b ds s →
      (f b x).Meets C s fun b' es t => inv (before ++ [x]) b' (ds ++ es) t)
    {before : List γ} {b : β} {ds : List δ} {s : σ} (h : inv before b ds s) :
    (xs.foldlM f b).Meets C s fun b' es t => inv (before ++ xs) b' (ds ++ es) t := by
  induction xs generalizing before b ds s with
  | nil => simpa using h
  | cons x rest ih =>
    rw [List.foldlM_cons, meets_bind]
    refine (hstep before x List.mem_cons_self b ds s h).mono fun b' es t hb => ?_
    have hrest := ih (fun before y hy => hstep before y (List.mem_cons_of_mem x hy)) hb
    simpa [List.append_assoc] using hrest

/-- The rule of a loop over a list: `inv` speaks of the items that are done, of what the loop has
come to, and of the deeds and the state then. -/
theorem meets_foldlM (f : β → γ → Program Ask Answer ε β)
    (inv : List γ → β → List δ → σ → Prop) (xs : List γ)
    (hstep : ∀ before, ∀ x ∈ xs, ∀ b ds s, inv before b ds s →
      (f b x).Meets C s fun b' es t => inv (before ++ [x]) b' (ds ++ es) t)
    {b : β} {ds : List δ} {s : σ} (h : inv [] b ds s) :
    (xs.foldlM f b).Meets C s fun b' es t => inv xs b' (ds ++ es) t :=
  meets_foldlM_from f inv xs hstep h

/-- A program whose requests are carried out by programs: if these keep to the contract under an
invariant of the states, what the first guarantees is guaranteed by the whole. -/
theorem Meets.via {σ : Type} {C : Contract Ask Answer σ δ} {C' : Contract Ask' Answer' σ δ}
    {carry : (q : Ask) → Program Ask' Answer' ε (Answer q)} {inv : σ → Prop}
    (hcarry : ∀ q s, C.may q → inv s →
      (carry q).Meets C' s fun r ds t => C.answers s q r ds t ∧ inv t)
    {p : Program Ask Answer ε α} {s : σ} {post : α → List δ → σ → Prop}
    (hp : p.Meets C s post) (hs : inv s) :
    (p.via carry).Meets C' s fun a ds t => post a ds t ∧ inv t := by
  induction p generalizing s post with
  | done a => exact ⟨hp, hs⟩
  | fault e => exact hp
  | ask q next ih =>
    refine (meets_bind (carry q) _ s _).2 ?_
    exact (hcarry q s hp.1 hs).mono fun r ds t ⟨hr, ht⟩ => ih r (hp.2 r ds t hr) ht

/-- A program that meets a contract comes to a result with whoever answers as the contract says. -/
theorem Meets.run {τ : Type} {serve : (q : Ask) → τ → Except ε (Answer q) × τ}
    {rel : τ → σ → Prop}
    (hserve : ∀ q t s, C.may q → rel t s → ∃ r t' ds s',
      serve q t = (.ok r, t') ∧ C.answers s q r ds s' ∧ rel t' s')
    {p : Program Ask Answer ε α} {s : σ} {post : α → List δ → σ → Prop} (hp : p.Meets C s post)
    {t : τ} (ht : rel t s) :
    ∃ a t' ds s', p.run serve t = (.ok a, t') ∧ post a ds s' ∧ rel t' s' := by
  induction p generalizing s t post with
  | done a => exact ⟨a, t, [], s, rfl, hp, ht⟩
  | fault e => exact hp.elim
  | ask q next ih =>
    obtain ⟨r, t', ds, s', hanswer, hr, ht'⟩ := hserve q t s hp.1 ht
    obtain ⟨a, u, es, s'', hrun, hpost, hu⟩ := ih r (hp.2 r ds s' hr) ht'
    refine ⟨a, u, ds ++ es, s'', ?_, hpost, hu⟩
    rw [Program.run, hanswer]
    exact hrun

end Program
end EditorialDesk
