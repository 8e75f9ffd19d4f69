import EditorialDesk.Proofs.Database.History
import Mathlib.Logic.Relation

/-!
# Two sessions at one database

The sessions take turns in any order, a query at a time. Each keeps what it guarantees
where queries of the intake come in between; all queries together lead from the first
state to the last, and their deeds are those of the two sessions.
-/
namespace EditorialDesk

open Database

/-- Two sessions, as far as they are not over, and the database that they share. -/
structure Overlap (α β : Type) where
  first : Session α
  second : Session β
  database : Database

namespace Overlap

variable {α β : Type} {x y : Overlap α β} {db : Database}
variable {post : α → List Deed → Database → Prop} {post' : β → List Deed → Database → Prop}

/-- One of the sessions puts its next query. -/
inductive Step : Overlap α β → Overlap α β → Prop
  | first (c : Call) (next : Except CallFault c.Answer → Session α) (second : Session β)
    (db : Database) :
    Step ⟨.ask c next, second, db⟩ ⟨next (db.perform c).1, second, (db.perform c).2⟩
  | second (first : Session α) (c : Call) (next : Except CallFault c.Answer → Session β)
    (db : Database) :
    Step ⟨first, .ask c next, db⟩ ⟨first, next (db.perform c).1, (db.perform c).2⟩

/-- Neither of the sessions has a query left. -/
def IsOver (x : Overlap α β) : Prop := ∀ y, ¬ x.Step y

/-- If a session comes to an end after its next query, so does it with another beside it. -/
lemma acc_of_next {first : Session α}
    (h : ∀ c next, first = .ask c next → ∀ r (second : Session β) db,
      Acc (fun y x => Step x y) ⟨next r, second, db⟩) (second : Session β) (db : Database) :
    Acc (fun y x => Step x y) ⟨first, second, db⟩ := by
  induction second generalizing db with
  | ask c next ih =>
    refine ⟨_, fun y hy => ?_⟩
    cases hy with
    | first c next => exact h c next rfl _ _ _
    | second => exact ih _ _
  | _ =>
    refine ⟨_, fun y hy => ?_⟩
    cases hy with
    | first c next => exact h c next rfl _ _ _

/-- Whatever the order of the turns, the sessions come to an end. -/
theorem acc_step (x : Overlap α β) : Acc (fun y x => Step x y) x := by
  obtain ⟨first, second, db⟩ := x
  induction first generalizing second db with
  | done a => exact acc_of_next (fun _ _ h => by cases h) second db
  | fault e => exact acc_of_next (fun _ _ h => by cases h) second db
  | ask c next ih =>
    refine acc_of_next (fun c' next' h => ?_) second db
    cases h
    exact ih

/-- The sessions can be carried to their end. -/
lemma exists_isOver (x : Overlap α β) : ∃ y, Relation.ReflTransGen Step x y ∧ y.IsOver := by
  induction acc_step x with
  | intro x _ ih =>
    by_cases hover : x.IsOver
    · exact ⟨x, .refl, hover⟩
    · obtain ⟨y, hy⟩ : ∃ y, x.Step y := by simpa [IsOver] using hover
      obtain ⟨z, hz, hend⟩ := ih y hy
      exact ⟨z, .head hy hz, hend⟩

/-- How far the sessions have come: what each has done, what it still guarantees from the state in
which it was last, and what both have done together. -/
structure Tally (db : Database) (post : α → List Deed → Database → Prop)
    (post' : β → List Deed → Database → Prop) (x : Overlap α β) where
  all : List Deed
  first : List Deed
  second : List Deed
  lastFirst : Database
  lastSecond : Database
  leads : Leads db all x.database
  merged : all.Perm (first ++ second)
  laterFirst : Later lastFirst x.database
  laterSecond : Later lastSecond x.database
  meetsFirst : x.first.Meets overlapping lastFirst fun a ds t => post a (first ++ ds) t
  meetsSecond : x.second.Meets overlapping lastSecond fun b ds t => post' b (second ++ ds) t

/-- At first nothing is done. -/
def Tally.start {p : Session α} {q : Session β} (hp : p.Meets overlapping db post)
    (hq : q.Meets overlapping db post') : Tally db post post' ⟨p, q, db⟩ where
  all := []
  first := []
  second := []
  lastFirst := db
  lastSecond := db
  leads := .refl db
  merged := List.Perm.refl []
  laterFirst := .refl db
  laterSecond := .refl db
  meetsFirst := hp
  meetsSecond := hq

/-- A query of one session is one that comes in between for the other. -/
theorem Tally.step (t : Tally db post post' x) (hdb : db.Plain) (h : x.Step y) :
    Nonempty (Tally db post post' y) := by
  have hplain := (t.leads.later hdb).plain hdb
  cases h with
  | first c next second now =>
    obtain ⟨hc, hnext⟩ := t.meetsFirst
    have hlater := hplain.later_perform hc
    refine ⟨{
      all := t.all ++ now.deeds c
      first := t.first ++ now.deeds c
      second := t.second
      lastFirst := (now.perform c).2
      lastSecond := t.lastSecond
      leads := t.leads.trans (.perform hc now)
      merged := ?_
      laterFirst := .refl _
      laterSecond := t.laterSecond.trans hlater
      meetsFirst := ?_
      meetsSecond := t.meetsSecond }⟩
    · refine (t.merged.append_right _).trans ?_
      rw [List.append_assoc, List.append_assoc]
      exact List.perm_append_comm.append_left _
    · simp only [List.append_assoc]
      exact hnext _ _ _ ⟨now, t.laterFirst, rfl, rfl, rfl⟩
  | second first c next now =>
    obtain ⟨hc, hnext⟩ := t.meetsSecond
    have hlater := hplain.later_perform hc
    refine ⟨{
      all := t.all ++ now.deeds c
      first := t.first
      second := t.second ++ now.deeds c
      lastFirst := t.lastFirst
      lastSecond := (now.perform c).2
      leads := t.leads.trans (.perform hc now)
      merged := ?_
      laterFirst := t.laterFirst.trans hlater
      laterSecond := .refl _
      meetsFirst := t.meetsFirst
      meetsSecond := ?_ }⟩
    · rw [← List.append_assoc]
      exact t.merged.append_right _
    · simp only [List.append_assoc]
      exact hnext _ _ _ ⟨now, t.laterSecond, rfl, rfl, rfl⟩

/-- Whatever the order of the turns, there is a tally of them. -/
theorem Tally.steps (t : Tally db post post' x) (hdb : db.Plain)
    (h : Relation.ReflTransGen Step x y) : Nonempty (Tally db post post' y) := by
  induction h with
  | refl => exact ⟨t⟩
  | tail _ hstep ih =>
    obtain ⟨t⟩ := ih
    exact t.step hdb hstep

/-- Where the sessions are over, both have results, and of these holds what they guarantee. -/
theorem Tally.over (t : Tally db post post' x) (h : x.IsOver) : ∃ a b,
    x.first = .done a ∧ x.second = .done b ∧ post a t.first t.lastFirst ∧
      post' b t.second t.lastSecond := by
  obtain ⟨first, second, now⟩ := x
  have hfirst := t.meetsFirst
  have hsecond := t.meetsSecond
  cases first with
  | fault e => exact hfirst.elim
  | ask c next => exact absurd (.first c next second now) (h _)
  | done a =>
    cases second with
    | fault e => exact hsecond.elim
    | ask c next => exact absurd (.second _ c next now) (h _)
    | done b =>
      simp only [Program.meets_done, List.append_nil] at hfirst hsecond
      exact ⟨a, b, rfl, rfl, hfirst, hsecond⟩

end Overlap
end EditorialDesk
