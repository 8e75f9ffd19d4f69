import EditorialDesk.Program

/-!
# Dialogues

What a program says to whoever answers it: its requests in order, each with the answer or
the fault that came back. Nothing is assumed about the answers. A program ensures
something if it holds of every dialogue, of those that come to a result as well as of those
that break off. It asks only such requests if it comes to no others, whatever is answered.
-/
namespace EditorialDesk

/-- A request, and the answer or the fault that came back. -/
structure Exchange (Ask : Type) (Answer : Ask → Type) (ε : Type) where
  request : Ask
  reply : Except ε (Answer request)

namespace Program

variable {Ask : Type} {Answer : Ask → Type} {ε α β γ σ : Type}

theorem run_bind_eq_ok {serve : (q : Ask) → σ → Except ε (Answer q) × σ}
    {p : Program Ask Answer ε α} {f : α → Program Ask Answer ε β} {s t : σ} {b : β} :
    (p >>= f).run serve s = (.ok b, t) ↔
      ∃ a m, p.run serve s = (.ok a, m) ∧ (f a).run serve m = (.ok b, t) := by
  change (p.bind f).run serve s = (.ok b, t) ↔ _
  rw [run_bind]
  rcases p.run serve s with ⟨e | a, m⟩
  · simp
  · constructor
    · exact fun h => ⟨a, m, rfl, h⟩
    · rintro ⟨_, _, hfirst, hsecond⟩
      cases hfirst
      exact hsecond

theorem run_pure_eq_ok {serve : (q : Ask) → σ → Except ε (Answer q) × σ} {a b : α} {s t : σ} :
    (pure a : Program Ask Answer ε α).run serve s = (.ok b, t) ↔ a = b ∧ s = t := by
  simp [pure, run]

theorem run_request_eq_ok {serve : (q : Ask) → σ → Except ε (Answer q) × σ} {q : Ask} {s t : σ}
    {r : Answer q} : (request q).run serve s = (.ok r, t) ↔ serve q s = (.ok r, t) := by
  rw [request, run]
  rcases serve q s with ⟨e | a, m⟩ <;> simp [run]

/-- A sequence that begins with a request, once that is answered. -/
theorem run_request_bind_of_ok {serve : (q : Ask) → σ → Except ε (Answer q) × σ} {q : Ask}
    {s t : σ} {r : Answer q} (h : serve q s = (.ok r, t)) {f : Answer q → Program Ask Answer ε β} :
    (request q >>= f).run serve s = (f r).run serve t := by
  change (ask q f).run serve s = _
  rw [run, h]

theorem ofExcept_ok_bind (a : α) (f : α → Program Ask Answer ε β) :
    (ofExcept (.ok a) >>= f) = f a := rfl

/-- The exchanges of a run, in order. -/
def dialogue (serve : (q : Ask) → σ → Except ε (Answer q) × σ) :
    Program Ask Answer ε α → σ → List (Exchange Ask Answer ε)
  | done _, _ => []
  | fault _, _ => []
  | ask q next, s =>
    match serve q s with
    | (.ok r, s') => ⟨q, .ok r⟩ :: (next r).dialogue serve s'
    | (.error e, _) => [⟨q, .error e⟩]

/-- After the exchanges `xs`, whatever comes back: a result comes with exchanges that are `good`
for it, and exchanges that break off are at least `fair`. -/
def Ensures : Program Ask Answer ε α → List (Exchange Ask Answer ε) →
    (good : α → List (Exchange Ask Answer ε) → Prop) →
    (fair : List (Exchange Ask Answer ε) → Prop) → Prop
  | done a, xs, good, _ => good a xs
  | fault _, xs, _, fair => fair xs
  | ask q next, xs, good, fair =>
    (∀ e, fair (xs ++ [⟨q, .error e⟩])) ∧
      ∀ r, (next r).Ensures (xs ++ [⟨q, .ok r⟩]) good fair

variable {good : α → List (Exchange Ask Answer ε) → Prop}
variable {fair : List (Exchange Ask Answer ε) → Prop} {xs : List (Exchange Ask Answer ε)}

/-- What a program ensures holds of its dialogue with anybody. -/
theorem Ensures.of_run {p : Program Ask Answer ε α} (h : p.Ensures xs good fair)
    (serve : (q : Ask) → σ → Except ε (Answer q) × σ) (s : σ) :
    (∀ a, (p.run serve s).1 = .ok a → good a (xs ++ p.dialogue serve s)) ∧
      ∀ e, (p.run serve s).1 = .error e → fair (xs ++ p.dialogue serve s) := by
  induction p generalizing xs s with
  | done a =>
    simp only [run, dialogue, List.append_nil]
    exact ⟨fun b hb => Except.ok.inj hb ▸ h, by simp⟩
  | fault e =>
    simp only [run, dialogue, List.append_nil]
    exact ⟨by simp, fun _ _ => h⟩
  | ask q next ih =>
    simp only [run, dialogue]
    rcases serve q s with ⟨e | r, s'⟩
    · exact ⟨by simp, fun _ _ => h.1 e⟩
    · have hrest := ih r (h.2 r) s'
      simpa only [List.append_assoc, List.singleton_append] using hrest

theorem Ensures.mono {p : Program Ask Answer ε α} (h : p.Ensures xs good fair)
    {good' : α → List (Exchange Ask Answer ε) → Prop}
    {fair' : List (Exchange Ask Answer ε) → Prop} (hgood : ∀ a ys, good a ys → good' a ys)
    (hfair : ∀ ys, fair ys → fair' ys) : p.Ensures xs good' fair' := by
  induction p generalizing xs with
  | done a => exact hgood a xs h
  | fault e => exact hfair xs h
  | ask q next ih => exact ⟨fun e => hfair _ (h.1 e), fun r => ih r (h.2 r)⟩

/-- In a sequence the second part begins with the exchanges of the first. -/
theorem ensures_bind {p : Program Ask Answer ε α} {f : α → Program Ask Answer ε β}
    {good : β → List (Exchange Ask Answer ε) → Prop} :
    (p >>= f).Ensures xs good fair ↔
      p.Ensures xs (fun a ys => (f a).Ensures ys good fair) fair := by
  change (p.bind f).Ensures xs good fair ↔ _
  induction p generalizing xs with
  | done a => rfl
  | fault e => rfl
  | ask q next ih => simp only [bind, Ensures, ih]

@[simp] theorem ensures_pure (a : α) : (pure a : Program Ask Answer ε α).Ensures xs good fair ↔
    good a xs := Iff.rfl

theorem ensures_request_bind {q : Ask} {f : Answer q → Program Ask Answer ε α} :
    (request q >>= f).Ensures xs good fair ↔
      (∀ e, fair (xs ++ [⟨q, .error e⟩])) ∧
        ∀ r, (f r).Ensures (xs ++ [⟨q, .ok r⟩]) good fair := Iff.rfl

theorem ensures_ofExcept_bind {r : Except ε β} {f : β → Program Ask Answer ε α} :
    (ofExcept r >>= f).Ensures xs good fair ↔
      (∀ e, r = .error e → fair xs) ∧ ∀ b, r = .ok b → (f b).Ensures xs good fair := by
  cases r with
  | error e =>
    exact ⟨fun h => ⟨fun _ _ => h, by simp⟩, fun h => h.1 e rfl⟩
  | ok b =>
    refine ⟨fun h => ⟨by simp, fun c hc => ?_⟩, fun h => h.2 b rfl⟩
    rw [← Except.ok.inj hc]
    exact h

/-- The rule of a loop over a list, with an invariant of what the loop has come to and the exchanges
so far. -/
theorem ensures_foldlM {f : β → γ → Program Ask Answer ε β} {items : List γ}
    {inv : β → List (Exchange Ask Answer ε) → Prop}
    (hstep : ∀ x ∈ items, ∀ b ys, inv b ys → (f b x).Ensures ys inv fair) {b : β} (h : inv b xs) :
    (items.foldlM f b).Ensures xs inv fair := by
  induction items generalizing b xs with
  | nil => exact h
  | cons x rest ih =>
    rw [List.foldlM_cons, ensures_bind]
    refine (hstep x List.mem_cons_self b xs h).mono (fun b' ys hb => ?_) fun _ hys => hys
    exact ih (fun y hy => hstep y (List.mem_cons_of_mem x hy)) hb

/-- Every request that a program can come to satisfies `P`, whatever is answered before. -/
def Asks (P : Ask → Prop) : Program Ask Answer ε α → Prop
  | done _ => True
  | fault _ => True
  | ask q next => P q ∧ ∀ r, (next r).Asks P

variable {P Q : Ask → Prop}

theorem asks_pure (a : α) : (pure a : Program Ask Answer ε α).Asks P := trivial

theorem asks_ofExcept (r : Except ε α) : (ofExcept r : Program Ask Answer ε α).Asks P := by
  cases r <;> trivial

theorem asks_ofExcept_bind {r : Except ε β} {f : β → Program Ask Answer ε α}
    (hf : ∀ b, r = .ok b → (f b).Asks P) : (ofExcept r >>= f).Asks P := by
  cases r with
  | error e => trivial
  | ok b => exact hf b rfl

theorem Asks.mono {p : Program Ask Answer ε α} (h : p.Asks P) (hPQ : ∀ q, P q → Q q) :
    p.Asks Q := by
  induction p with
  | done a => trivial
  | fault e => trivial
  | ask q next ih => exact ⟨hPQ q h.1, fun r => ih r (h.2 r)⟩

theorem Asks.bind {p : Program Ask Answer ε α} {f : α → Program Ask Answer ε β} (hp : p.Asks P)
    (hf : ∀ a, (f a).Asks P) : (p >>= f).Asks P := by
  change (p.bind f).Asks P
  induction p with
  | done a => exact hf a
  | fault e => trivial
  | ask q next ih => exact ⟨hp.1, fun r => ih r (hp.2 r)⟩

theorem asks_request {q : Ask} (hq : P q) : (request q : Program Ask Answer ε (Answer q)).Asks P :=
  ⟨hq, fun _ => trivial⟩

theorem asks_foldlM {f : β → γ → Program Ask Answer ε β} {items : List γ}
    (hf : ∀ b, ∀ x ∈ items, (f b x).Asks P) (b : β) : (items.foldlM f b).Asks P := by
  induction items generalizing b with
  | nil => trivial
  | cons x rest ih =>
    rw [List.foldlM_cons]
    exact (hf b x List.mem_cons_self).bind fun b' =>
      ih (fun b y hy => hf b y (List.mem_cons_of_mem x hy)) b'

end Program
end EditorialDesk

/-!
## Programs that trust their answers

What a program asks if it can rely on its answers: as long as these are as it expects them,
so are its requests, and so is its result if it comes to one. Two parties that answer such
requests alike, and as expected, cannot be told apart by the program.
-/
namespace EditorialDesk.Program

variable {Ask : Type} {Answer : Ask → Type} {ε α β γ σ τ : Type}

/-- As long as the answers are as `T` says, the requests are as `P` says, and `post` holds of the
result if there is one. -/
def Upholds (P : Ask → Prop) (T : (q : Ask) → Answer q → Prop) :
    Program Ask Answer ε α → (α → Prop) → Prop
  | done a, post => post a
  | fault _, _ => True
  | ask q next, post => P q ∧ ∀ r, T q r → (next r).Upholds P T post

variable {P : Ask → Prop} {T : (q : Ask) → Answer q → Prop} {p : Program Ask Answer ε α}
variable {post : α → Prop}

@[simp] theorem upholds_pure (a : α) :
    (pure a : Program Ask Answer ε α).Upholds P T post ↔ post a := Iff.rfl

theorem upholds_ofExcept {r : Except ε α} (h : ∀ a, r = .ok a → post a) :
    (ofExcept r : Program Ask Answer ε α).Upholds P T post := by
  cases r with
  | error e => trivial
  | ok a => exact h a rfl

theorem Upholds.mono (h : p.Upholds P T post) {post' : α → Prop} (hpost : ∀ a, post a → post' a) :
    p.Upholds P T post' := by
  induction p with
  | done a => exact hpost a h
  | fault e => trivial
  | ask q next ih => exact ⟨h.1, fun r hr => ih r (h.2 r hr)⟩

/-- The second part of a sequence can rely on what the first has come to. -/
theorem Upholds.bind (h : p.Upholds P T post) {f : α → Program Ask Answer ε β} {post' : β → Prop}
    (hf : ∀ a, post a → (f a).Upholds P T post') : (p >>= f).Upholds P T post' := by
  change (p.bind f).Upholds P T post'
  induction p with
  | done a => exact hf a h
  | fault e => trivial
  | ask q next ih => exact ⟨h.1, fun r hr => ih r (h.2 r hr)⟩

/-- What is computed without a request is all that is known of it. -/
theorem upholds_ofExcept_bind {r : Except ε α} {f : α → Program Ask Answer ε β}
    {post : β → Prop} (hf : ∀ a, r = .ok a → (f a).Upholds P T post) :
    (ofExcept r >>= f).Upholds P T post :=
  (upholds_ofExcept fun _ h => h).bind hf

theorem upholds_request_bind {q : Ask} {f : Answer q → Program Ask Answer ε α} (hq : P q)
    (hf : ∀ r, T q r → (f r).Upholds P T post) : (request q >>= f).Upholds P T post :=
  ⟨hq, hf⟩

theorem upholds_foldlM {f : β → γ → Program Ask Answer ε β} {items : List γ} {inv : β → Prop}
    (hstep : ∀ x ∈ items, ∀ b, inv b → (f b x).Upholds P T inv) {b : β} (h : inv b) :
    (items.foldlM f b).Upholds P T inv := by
  induction items generalizing b with
  | nil => exact h
  | cons x rest ih =>
    rw [List.foldlM_cons]
    exact (hstep x List.mem_cons_self b h).bind fun b' hb =>
      ih (fun y hy => hstep y (List.mem_cons_of_mem x hy)) hb

/-- Whatever the answers are, a program that asks only such requests does. -/
theorem Asks.upholds (h : p.Asks P) : p.Upholds P T fun _ => True := by
  induction p with
  | done a => trivial
  | fault e => trivial
  | ask q next ih => exact ⟨h.1, fun r _ => ih r (h.2 r)⟩

/-- A program comes to the same on two states between which `rel` holds, if the requests that it
may put are answered alike on such states, and as expected. -/
theorem Upholds.run_alike {serve : (q : Ask) → σ → Except ε (Answer q) × σ}
    {serve' : (q : Ask) → τ → Except ε (Answer q) × τ} {rel : σ → τ → Prop}
    (hserve : ∀ q s t, P q → rel s t →
      (serve' q t).1 = (serve q s).1 ∧ rel (serve q s).2 (serve' q t).2 ∧
        ∀ r, (serve q s).1 = .ok r → T q r)
    (h : p.Upholds P T post) {s : σ} {t : τ} (hst : rel s t) :
    (p.run serve' t).1 = (p.run serve s).1 ∧ rel (p.run serve s).2 (p.run serve' t).2 ∧
      ∀ a, (p.run serve s).1 = .ok a → post a := by
  induction p generalizing s t with
  | done a => exact ⟨rfl, hst, fun b hb => Except.ok.inj hb ▸ h⟩
  | fault e => exact ⟨rfl, hst, fun _ he => by cases he⟩
  | ask q next ih =>
    obtain ⟨hsame, hrel, htrue⟩ := hserve q s t h.1 hst
    simp only [run]
    rcases hleft : serve q s with ⟨e | r, s'⟩ <;> rcases hright : serve' q t with ⟨e' | r', t'⟩ <;>
      rw [hleft, hright] at hsame hrel <;> cases hsame
    · exact ⟨rfl, hrel, fun _ he => by cases he⟩
    · exact ih r (h.2 r (htrue r (by rw [hleft]))) hrel

end EditorialDesk.Program
