/-!
# Programs of requests

A program is a tree: it ends with a result or a fault, or it puts one request and goes
on from the answer. What answers the requests is left to whoever runs the program, so
that one program runs on several stores, and a run can be cut at any request.
-/
namespace EditorialDesk

/-- Programs whose requests are of type `Ask`, with answers as `Answer` says. -/
inductive Program (Ask : Type) (Answer : Ask → Type) (ε α : Type) where
  | done (a : α)
  | fault (e : ε)
  | ask (q : Ask) (next : Answer q → Program Ask Answer ε α)

namespace Program

variable {Ask : Type} {Answer : Ask → Type} {ε α β : Type}

/-- Goes on from the result of a program; a fault ends both. -/
def bind : Program Ask Answer ε α → (α → Program Ask Answer ε β) → Program Ask Answer ε β
  | done a, f => f a
  | fault e, _ => fault e
  | ask q next, f => ask q fun r => (next r).bind f

instance : Monad (Program Ask Answer ε) where
  pure := done
  bind := bind

/-- The program that puts one request and ends with its answer. -/
def request (q : Ask) : Program Ask Answer ε (Answer q) := ask q done

/-- A result or a fault, without any request. -/
def ofExcept : Except ε α → Program Ask Answer ε α
  | .ok a => done a
  | .error e => fault e

/-- Replaces each request by a program of requests of another kind. -/
def via {Ask' : Type} {Answer' : Ask' → Type}
    (carry : (q : Ask) → Program Ask' Answer' ε (Answer q)) :
    Program Ask Answer ε α → Program Ask' Answer' ε α
  | done a => done a
  | fault e => fault e
  | ask q next => (carry q).bind fun r => (next r).via carry

/-- Runs a program on a state that answers its requests one after the other. A request that fails
ends the run; the state is kept. -/
def run {σ : Type} (serve : (q : Ask) → σ → Except ε (Answer q) × σ) :
    Program Ask Answer ε α → σ → Except ε α × σ
  | done a, s => (.ok a, s)
  | fault e, s => (.error e, s)
  | ask q next, s =>
    match serve q s with
    | (.ok r, s') => (next r).run serve s'
    | (.error e, s') => (.error e, s')

@[simp] theorem bind_done (a : α) (f : α → Program Ask Answer ε β) : (done a).bind f = f a := rfl

theorem bind_assoc {γ : Type} (p : Program Ask Answer ε α) (f : α → Program Ask Answer ε β)
    (g : β → Program Ask Answer ε γ) : (p.bind f).bind g = p.bind fun a => (f a).bind g := by
  induction p with
  | done a => rfl
  | fault e => rfl
  | ask q next ih => simp only [bind, ih]

theorem bind_done_right (p : Program Ask Answer ε α) : p.bind done = p := by
  induction p with
  | done a => rfl
  | fault e => rfl
  | ask q next ih => simp only [bind, ih]

instance : LawfulMonad (Program Ask Answer ε) :=
  LawfulMonad.mk' _ bind_done_right (fun _ _ => rfl) bind_assoc

theorem run_bind {σ : Type} (serve : (q : Ask) → σ → Except ε (Answer q) × σ)
    (p : Program Ask Answer ε α) (f : α → Program Ask Answer ε β) (s : σ) :
    (p.bind f).run serve s =
      match p.run serve s with
      | (.ok a, s') => (f a).run serve s'
      | (.error e, s') => (.error e, s') := by
  induction p generalizing s with
  | done a => rfl
  | fault e => rfl
  | ask q next ih =>
    simp only [bind, run]
    rcases serve q s with ⟨_ | r, s'⟩
    · rfl
    · exact ih r s'

end Program
end EditorialDesk
