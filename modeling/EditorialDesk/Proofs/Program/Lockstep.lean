import EditorialDesk.Proofs.Program.Dialogue

/-!
# Programs in lockstep

Two programs in lockstep put the same requests as long as their answers have to do with
each other, and then come to results that have to do with each other, or to one fault. So
they come to such results with two parties that answer alike in this sense, and leave
them in one state.
-/
namespace EditorialDesk.Program

variable {Ask Ask' : Type} {Answer : Ask → Type} {Answer' : Ask' → Type}
variable {ε α β γ δ κ σ : Type}

/-- As long as `rel` holds between the answers, the requests are the same, and `post` holds between
the results; a fault ends both. -/
inductive Lockstep (rel : (q : Ask) → Answer q → Answer q → Prop) (post : α → β → Prop) :
    Program Ask Answer ε α → Program Ask Answer ε β → Prop
  | done {a : α} {b : β} (h : post a b) : Lockstep rel post (.done a) (.done b)
  | fault (e : ε) : Lockstep rel post (.fault e) (.fault e)
  | ask (q : Ask) {next : Answer q → Program Ask Answer ε α}
      {next' : Answer q → Program Ask Answer ε β}
      (h : ∀ r r', rel q r r' → Lockstep rel post (next r) (next' r')) :
      Lockstep rel post (.ask q next) (.ask q next')

variable {rel : (q : Ask) → Answer q → Answer q → Prop} {post : α → β → Prop}
variable {p : Program Ask Answer ε α} {p' : Program Ask Answer ε β}

theorem lockstep_pure {a : α} {b : β} (h : post a b) :
    Lockstep rel post (pure a : Program Ask Answer ε α) (pure b) := .done h

theorem Lockstep.bind (h : Lockstep rel post p p') {f : α → Program Ask Answer ε γ}
    {f' : β → Program Ask Answer ε δ} {post' : γ → δ → Prop}
    (hf : ∀ a b, post a b → Lockstep rel post' (f a) (f' b)) :
    Lockstep rel post' (p >>= f) (p' >>= f') := by
  change Lockstep rel post' (p.bind f) (p'.bind f')
  induction h with
  | done h => exact hf _ _ h
  | fault e => exact .fault e
  | ask q _ ih => exact .ask q ih

theorem lockstep_request_bind {q : Ask} {f : Answer q → Program Ask Answer ε α}
    {f' : Answer q → Program Ask Answer ε β}
    (hf : ∀ r r', rel q r r' → Lockstep rel post (f r) (f' r')) :
    Lockstep rel post (request q >>= f) (request q >>= f') := .ask q hf

theorem lockstep_ofExcept_bind {r : Except ε γ} {f : γ → Program Ask Answer ε α}
    {f' : γ → Program Ask Answer ε β} (hf : ∀ c, r = .ok c → Lockstep rel post (f c) (f' c)) :
    Lockstep rel post (ofExcept r >>= f) (ofExcept r >>= f') := by
  cases r with
  | error e => exact .fault e
  | ok c => exact hf c rfl

/-- The rule of a loop over a list. -/
theorem lockstep_foldlM {f : α → κ → Program Ask Answer ε α} {f' : β → κ → Program Ask Answer ε β}
    {items : List κ} (hstep : ∀ x ∈ items, ∀ a b, post a b → Lockstep rel post (f a x) (f' b x))
    {a : α} {b : β} (h : post a b) :
    Lockstep rel post (items.foldlM f a) (items.foldlM f' b) := by
  induction items generalizing a b with
  | nil => exact lockstep_pure h
  | cons x rest ih =>
    rw [List.foldlM_cons, List.foldlM_cons]
    exact (hstep x List.mem_cons_self a b h).bind fun a' b' hab =>
      ih (fun y hy => hstep y (List.mem_cons_of_mem x hy)) hab

/-- A program is in lockstep with itself if what it asks is answered equally. -/
theorem Asks.lockstep {P : Ask → Prop} (h : p.Asks P)
    (hrel : ∀ q, P q → ∀ r r', rel q r r' → r' = r) : Lockstep rel (fun a b => b = a) p p := by
  induction p with
  | done a => exact .done rfl
  | fault e => exact .fault e
  | ask q next ih =>
    refine .ask q fun r r' hr => ?_
    rw [hrel q h.1 r r' hr]
    exact ih r (h.2 r)

/-- Programs in lockstep are in lockstep when their requests are carried out by programs that
are. -/
theorem Lockstep.via {rel' : (q : Ask') → Answer' q → Answer' q → Prop}
    {carry : (q : Ask) → Program Ask' Answer' ε (Answer q)}
    (hcarry : ∀ q, Lockstep rel' (rel q) (carry q) (carry q)) (h : Lockstep rel post p p') :
    Lockstep rel' post (p.via carry) (p'.via carry) := by
  induction h with
  | done h => exact .done h
  | fault e => exact .fault e
  | ask q _ ih => exact (hcarry q).bind ih

/-- The requests of a run, in order. -/
def requests (serve : (q : Ask) → σ → Except ε (Answer q) × σ) (p : Program Ask Answer ε α)
    (s : σ) : List Ask := (p.dialogue serve s).map (·.request)

/-- Two parties that answer alike, and move on alike, are left in one state after the same requests
by programs in lockstep, and the results have to do with each other. -/
theorem Lockstep.run {serve serve' : (q : Ask) → σ → Except ε (Answer q) × σ} {inv : σ → Prop}
    (hserve : ∀ q s, inv s → ∃ r r' t,
      serve q s = (.ok r, t) ∧ serve' q s = (.ok r', t) ∧ rel q r r' ∧ inv t)
    (h : Lockstep rel post p p') {s : σ} (hs : inv s) :
    (p'.run serve' s).2 = (p.run serve s).2 ∧ p'.requests serve' s = p.requests serve s ∧
      ∀ a, (p.run serve s).1 = .ok a → ∃ b, (p'.run serve' s).1 = .ok b ∧ post a b := by
  induction h generalizing s with
  | done h => exact ⟨rfl, rfl, fun a ha => Except.ok.inj ha ▸ ⟨_, rfl, h⟩⟩
  | fault e => exact ⟨rfl, rfl, fun a ha => by cases ha⟩
  | ask q _ ih =>
    obtain ⟨r, r', t, hr, hr', hrel, ht⟩ := hserve q s hs
    obtain ⟨hstate, hrequests, hpost⟩ := ih r r' hrel ht
    unfold requests at hrequests ⊢
    simp only [Program.run, dialogue, hr, hr', List.map_cons]
    exact ⟨hstate, congrArg (q :: ·) hrequests, hpost⟩

end EditorialDesk.Program

/-!
## Programs side by side

Two programs that put the same kind of requests are run, each on a state of its own and
with answers of its own. Side by side they come to results between which a relation
holds, and another between the states behind them. The rules go through both programs in
step; what only one of them does is run by itself.
-/
namespace EditorialDesk.Program

variable {Ask : Type} {Answer : Ask → Type} {ε α β γ δ κ σ τ : Type}

/-- Both programs come to results, the first from the state `s` and the second from the state `t`,
and `post` holds of the results and the last states. -/
def SideBySide (serve : (q : Ask) → σ → Except ε (Answer q) × σ)
    (serve' : (q : Ask) → τ → Except ε (Answer q) × τ) (p : Program Ask Answer ε α)
    (p' : Program Ask Answer ε β) (s : σ) (t : τ) (post : α → β → σ → τ → Prop) : Prop :=
  ∃ a s' b t', p.run serve s = (.ok a, s') ∧ p'.run serve' t = (.ok b, t') ∧ post a b s' t'

variable {serve : (q : Ask) → σ → Except ε (Answer q) × σ}
variable {serve' : (q : Ask) → τ → Except ε (Answer q) × τ}
variable {p : Program Ask Answer ε α} {p' : Program Ask Answer ε β} {s : σ} {t : τ}
variable {post : α → β → σ → τ → Prop}

theorem sideBySide_pure {a : α} {b : β} (h : post a b s t) :
    SideBySide serve serve' (pure a) (pure b) s t post :=
  ⟨a, s, b, t, rfl, rfl, h⟩

theorem SideBySide.bind (h : SideBySide serve serve' p p' s t post)
    {f : α → Program Ask Answer ε γ} {f' : β → Program Ask Answer ε δ}
    {post' : γ → δ → σ → τ → Prop}
    (hf : ∀ a b s t, post a b s t → SideBySide serve serve' (f a) (f' b) s t post') :
    SideBySide serve serve' (p >>= f) (p' >>= f') s t post' := by
  obtain ⟨a, s', b, t', hrun, hrun', hab⟩ := h
  obtain ⟨c, s'', d, t'', hnext, hnext', hcd⟩ := hf a b s' t' hab
  exact ⟨c, s'', d, t'', run_bind_eq_ok.2 ⟨a, s', hrun, hnext⟩,
    run_bind_eq_ok.2 ⟨b, t', hrun', hnext'⟩, hcd⟩

theorem sideBySide_request_bind {q q' : Ask} {r : Answer q} {r' : Answer q'} {s' : σ} {t' : τ}
    (hr : serve q s = (.ok r, s')) (hr' : serve' q' t = (.ok r', t'))
    {f : Answer q → Program Ask Answer ε α} {f' : Answer q' → Program Ask Answer ε β}
    (h : SideBySide serve serve' (f r) (f' r') s' t' post) :
    SideBySide serve serve' (request q >>= f) (request q' >>= f') s t post := by
  unfold SideBySide
  rw [run_request_bind_of_ok hr, run_request_bind_of_ok hr']
  exact h

theorem sideBySide_foldlM {f : α → κ → Program Ask Answer ε α} {f' : β → κ → Program Ask Answer ε β}
    {items : List κ} {inv : α → β → σ → τ → Prop}
    (hstep : ∀ x ∈ items, ∀ a b s t, inv a b s t →
      SideBySide serve serve' (f a x) (f' b x) s t inv)
    {a : α} {b : β} (h : inv a b s t) :
    SideBySide serve serve' (items.foldlM f a) (items.foldlM f' b) s t inv := by
  induction items generalizing a b s t with
  | nil => exact sideBySide_pure h
  | cons x rest ih =>
    rw [List.foldlM_cons, List.foldlM_cons]
    refine (hstep x List.mem_cons_self a b s t h).bind fun a' b' s' t' hinv => ?_
    exact ih (fun y hy => hstep y (List.mem_cons_of_mem x hy)) hinv

end EditorialDesk.Program
