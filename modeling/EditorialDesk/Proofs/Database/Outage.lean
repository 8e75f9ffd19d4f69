import EditorialDesk.Proofs.Database.History

/-!
# A query that fails

A session is watched as it runs: how it ends, which state it leaves and which queries it
has put. One of the queries can be made to fail without effect. A session surrenders to a
fault if it deals with it in no way but to end; the queries that it has put until then are
the first of those that it would have put.
-/
namespace EditorialDesk

open Database

/-- The fault with which a session ends that surrenders: look-ups and enrolments name a missing
table. -/
def Call.surfaced : Call → CallFault → Fault
  | .select .., f => .ofLookup f
  | .insert table _, f => if table = Table.stageAssignments then .ofLookup f else .ofCall f
  | .update .., f | .delete .., f => .ofCall f

/-- What is seen of a session. -/
structure Watched (α : Type) where
  result : Except Fault α
  database : Database
  queries : List Call

namespace Session

variable {α β : Type} {f : CallFault} {db : Database}

/-- Runs a session and watches it. If an outage is given, the query of that number fails with that
fault; it is noted, and does nothing. -/
def watch : Session α → Option (Nat × CallFault) → Database → Watched α
  | .done a, _, db => ⟨.ok a, db, []⟩
  | .fault e, _, db => ⟨.error e, db, []⟩
  | .ask c next, some (0, f), db =>
    let rest := watch (next (.error f)) none (db.note c)
    { rest with queries := c :: rest.queries }
  | .ask c next, some (k + 1, f), db =>
    let rest := watch (next (db.perform c).1) (some (k, f)) (db.perform c).2
    { rest with queries := c :: rest.queries }
  | .ask c next, none, db =>
    let rest := watch (next (db.perform c).1) none (db.perform c).2
    { rest with queries := c :: rest.queries }

theorem watch_none (p : Session α) (db : Database) :
    ((p.watch none db).result, (p.watch none db).database) = p.run db := by
  induction p generalizing db with
  | done a => rfl
  | fault e => rfl
  | ask c next ih => exact ih _ _

/-- Whatever query fails with the fault, the session ends with it. -/
def Surrenders (f : CallFault) : Session α → Prop
  | .done _ => True
  | .fault _ => True
  | .ask c next => next (.error f) = .fault (c.surfaced f) ∧ ∀ r, Surrenders f (next r)

@[simp] lemma surrenders_ofExcept (f : CallFault) (r : Except Fault α) :
    Surrenders f (Program.ofExcept r) := by
  cases r <;> trivial

lemma Surrenders.bind {p : Session α} {g : α → Session β} (hp : p.Surrenders f)
    (hg : ∀ a, (g a).Surrenders f) : Surrenders f (p >>= g) := by
  change Surrenders f (p.bind g)
  induction p with
  | done a => exact hg a
  | fault e => trivial
  | ask c next ih =>
    refine ⟨?_, fun r => ih r (hp.2 r)⟩
    change (next (.error f)).bind g = _
    rw [hp.1]
    rfl

lemma surrenders_attempt {c : Call} {onAnswer : c.Answer → Session α}
    {onFault : CallFault → Session α} (hanswer : ∀ r, (onAnswer r).Surrenders f)
    (hfault : ∀ g, (onFault g).Surrenders f) (hf : onFault f = .fault (c.surfaced f)) :
    Surrenders f (attempt c onAnswer onFault) := by
  refine ⟨hf, fun r => ?_⟩
  cases r with
  | ok answer => exact hanswer answer
  | error g => exact hfault g

lemma surrenders_lookup (f : CallFault) (table : String) (filters : List Filter)
    (order : List String) : Surrenders f (lookup table filters order) :=
  surrenders_attempt (fun _ => trivial) (fun _ => trivial) rfl

lemma surrenders_execute {c : Call} (hc : c.surfaced f = .ofCall f) : Surrenders f (execute c) :=
  surrenders_attempt (fun _ => trivial) (fun _ => trivial) (congrArg Program.fault hc.symm)

/-- A program surrenders if the sessions do that carry out its requests. -/
lemma surrenders_via {Ask : Type} {Answer : Ask → Type}
    {carry : (q : Ask) → Session (Answer q)} (hcarry : ∀ q, (carry q).Surrenders f)
    (p : Program Ask Answer Fault α) : Surrenders f (p.via carry) := by
  induction p with
  | done a => trivial
  | fault e => trivial
  | ask q next ih => exact (hcarry q).bind ih

/-- A session whose query number `k` fails ends there. The state that it leaves lies on the way to
that to which it would have come. -/
theorem watch_outage {p : Session α} {post : α → List Deed → Database → Prop}
    (hp : p.Meets overlapping db post) (hs : p.Surrenders f) {k : Nat}
    (hk : k < (p.watch none db).queries.length) : ∃ a ds ds' mid c,
      (p.watch none db).result = .ok a ∧ post a (ds ++ ds') (p.watch none db).database ∧
      Leads db ds mid ∧ Leads mid ds' (p.watch none db).database ∧
      (p.watch none db).queries[k]? = some c ∧
      p.watch (some (k, f)) db =
        ⟨.error (c.surfaced f), mid.note c, (p.watch none db).queries.take (k + 1)⟩ := by
  induction p generalizing db post k with
  | done a => exact absurd hk (Nat.not_lt_zero k)
  | fault e => exact absurd hk (Nat.not_lt_zero k)
  | ask c next ih =>
    cases k with
    | zero =>
      obtain ⟨a, ds, db', hrun, hpost, hleads⟩ := run_of_meets hp
      rw [← watch_none] at hrun
      obtain ⟨hresult, rfl⟩ := Prod.mk.inj hrun
      refine ⟨a, [], ds, db, c, hresult, hpost, .refl db, hleads, rfl, ?_⟩
      rw [watch, hs.1]
      rfl
    | succ k =>
      obtain ⟨a, ds, ds', mid, c', hresult, hpost, hmid, hlast, hc', hwatch⟩ :=
        ih _ (hp.2 _ _ _ ⟨db, .refl db, rfl, rfl, rfl⟩) (hs.2 _) (Nat.lt_of_succ_lt_succ hk)
      rw [← List.append_assoc] at hpost
      refine ⟨a, db.deeds c ++ ds, ds', mid, c', hresult, hpost, .step hp.1 hmid, hlast, hc', ?_⟩
      rw [watch, hwatch]
      rfl

end Session

/-! ## The queries of a session -/

/-- The state to which queries lead that are put one after the other. -/
def Database.performed (db : Database) (cs : List Call) : Database :=
  cs.foldl (fun db c => (db.perform c).2) db

/-- The queries of a session that goes on from what another has come to. -/
def Watched.onwards {α β : Type} (w : Watched α) (g : α → Session β) : List Call :=
  match w.result with
  | .ok a => ((g a).watch none w.database).queries
  | .error _ => []

namespace Session

variable {α β : Type} {f : CallFault}

/-- A session leaves the state to which its queries lead. -/
lemma watch_performed (p : Session α) (db : Database) :
    (p.watch none db).database = db.performed (p.watch none db).queries := by
  induction p generalizing db with
  | done a => rfl
  | fault e => rfl
  | ask c next ih => exact ih _ _

lemma queries_bind (p : Session α) (g : α → Session β) (db : Database) :
    ((p >>= g).watch none db).queries =
      (p.watch none db).queries ++ (p.watch none db).onwards g := by
  change (Session.watch (p.bind g) none db).queries = _
  induction p generalizing db with
  | done a => rfl
  | fault e => rfl
  | ask c next ih => exact congrArg (List.cons c) (ih _ _)

/-- A session that surrenders puts its queries up to the one that fails, and that one without
effect. If it comes to no such query, nothing fails. -/
theorem watch_cut {p : Session α} (hs : p.Surrenders f) (k : Nat) (db : Database) :
    p.watch (some (k, f)) db =
      match (p.watch none db).queries[k]? with
      | some c => ⟨.error (c.surfaced f),
          (db.performed ((p.watch none db).queries.take k)).note c,
          (p.watch none db).queries.take (k + 1)⟩
      | none => p.watch none db := by
  induction p generalizing k db with
  | done a => rfl
  | fault e => rfl
  | ask c next ih =>
    cases k with
    | zero =>
      rw [watch, hs.1]
      rfl
    | succ k =>
      have hrest := ih _ (hs.2 (db.perform c).1) k (db.perform c).2
      simp only [watch, List.getElem?_cons_succ, hrest]
      cases (watch (next (db.perform c).1) none (db.perform c).2).queries[k]? <;> rfl

end Session
end EditorialDesk
