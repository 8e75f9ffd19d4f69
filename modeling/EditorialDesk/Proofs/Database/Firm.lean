import EditorialDesk.Proofs.Database.Effect
import EditorialDesk.Proofs.Program.Dialogue
import Mathlib.Tactic.Lemma

/-!
# Firm databases

A database is firm if all its tables hold rows, seats can be taken only once, and the
failures that are scripted for it are there to stay. Rows may be malformed and inserts may
be answered by anything. A query then meets with the same failure each time, and a look-up
finds the same as long as the rows of its table are the same.
-/
namespace EditorialDesk

namespace Database

/-- The failure that is scripted for queries of a kind on a table. -/
def failure? (db : Database) (table : String) (kind : QueryKind) : Option CallFault :=
  (db.scripts.find? fun s => s.table == table && s.word == kind.word).map (·.fault)

/-- All tables hold rows, no seat can be taken twice, and no failure waits for queries to pass. -/
structure Firm (db : Database) : Prop where
  unreadable : db.unreadable = []
  unique : db.unique = true
  scripts : ∀ s ∈ db.scripts, s.after = some 0

/-- A second state that differs from a first one in rows and noted queries only, and not in the rows
of some tables. -/
structure Spares (kept : String → Prop) (db db' : Database) : Prop where
  frame : ({ db with tables := db'.tables, calls := db'.calls } : Database) = db'
  rows : ∀ table, kept table → db'.rows table = db.rows table

variable {db mid db' : Database} {kept : String → Prop}

lemma Spares.refl (kept : String → Prop) (db : Database) : Spares kept db db :=
  ⟨rfl, fun _ _ => rfl⟩

lemma Spares.trans (h : Spares kept db mid) (h' : Spares kept mid db') : Spares kept db db' where
  frame := by rw [← h'.frame, ← h.frame]
  rows table ht := (h'.rows table ht).trans (h.rows table ht)

lemma Spares.mono (h : Spares kept db db') {fewer : String → Prop}
    (hkept : ∀ table, fewer table → kept table) : Spares fewer db db' :=
  ⟨h.frame, fun table ht => h.rows table (hkept table ht)⟩

lemma Spares.firm (h : Spares kept db db') (hdb : db.Firm) : db'.Firm := by
  rw [← h.frame]
  exact ⟨hdb.unreadable, hdb.unique, hdb.scripts⟩

lemma Spares.plain (h : Spares kept db db') (hdb : db.Plain) : db'.Plain := hdb.of_frame h.frame

lemma Spares.failure?_eq (h : Spares kept db db') : db'.failure? = db.failure? := by
  rw [← h.frame]
  rfl

lemma spares_note (kept : String → Prop) (db : Database) (c : Call) : Spares kept db (db.note c) :=
  ⟨rfl, fun _ _ => rfl⟩

lemma trigger_of_not_concerns {c : Call} {scripts : List Script}
    (h : ∀ s ∈ scripts, s.concerns c = false) : trigger c scripts = .ok (none, scripts) := by
  induction scripts with
  | nil => rfl
  | cons s rest ih =>
    rw [List.forall_mem_cons] at h
    rw [trigger, ih h.2, h.1]
    rfl

/-- Failures that are there to stay are found and left in place. -/
lemma trigger_eq {scripts : List Script} (h : ∀ s ∈ scripts, s.after = some 0) (c : Call) :
    trigger c scripts = .ok ((scripts.find? (·.concerns c)).map (·.fault), scripts) := by
  induction scripts with
  | nil => rfl
  | cons s rest ih =>
    rw [List.forall_mem_cons] at h
    rw [trigger, ih h.2, h.1]
    cases hs : s.concerns c <;> simp [hs, Except.map]

lemma Plain.firm (h : db.Plain) : db.Firm where
  unreadable := h.unreadable
  unique := h.unique
  scripts _ hs := absurd (h.scripts ▸ hs) List.not_mem_nil

lemma Plain.failure?_eq (h : db.Plain) (table : String) (kind : QueryKind) :
    db.failure? table kind = none := by
  rw [failure?, h.scripts]
  rfl

lemma Firm.unreadable?_eq (h : db.Firm) (table : String) : db.unreadable? table = none := by
  simp [unreadable?, h.unreadable, Fields.get?]

lemma Firm.note (h : db.Firm) (c : Call) : (db.note c).Firm :=
  (spares_note (fun _ => True) db c).firm h

lemma Firm.perform_of_failure (h : db.Firm) {c : Call} {f : CallFault}
    (hc : db.failure? c.table c.kind = some f) : db.perform c = (.error f, db.note c) := by
  have htrigger : trigger c db.scripts = .ok (some f, db.scripts) := hc ▸ trigger_eq h.scripts c
  simp only [perform, htrigger]

/-- Where no failure strikes, a constraint decides about a query on a table of rows. -/
lemma perform_of_trigger {c : Call} (htrigger : trigger c db.scripts = .ok (none, db.scripts))
    (hrows : db.unreadable? c.table = none) :
    db.perform c =
      match db.obstacle? c with
      | .error f => (.error f, db)
      | .ok (some e) => (.error (.rejected e), db.note c)
      | .ok none => (db.note c).applyRows c := by
  have hnote : (db.note c).unreadable? c.table = none := hrows
  rcases hobstacle : db.obstacle? c with f | (_ | e) <;>
    simp only [perform, htrigger, hobstacle, apply, hnote]

/-- Where no failure is scripted, a constraint decides about a query. -/
lemma Firm.perform_of_none (h : db.Firm) {c : Call} (hc : db.failure? c.table c.kind = none) :
    db.perform c =
      match db.obstacle? c with
      | .error f => (.error f, db)
      | .ok (some e) => (.error (.rejected e), db.note c)
      | .ok none => (db.note c).applyRows c :=
  perform_of_trigger (hc ▸ trigger_eq h.scripts c) (h.unreadable?_eq c.table)

lemma Firm.perform_insert_of_failure (h : db.Firm) {table : String} {f : CallFault}
    (ht : db.failure? table .insert = some f) (row : Row) :
    db.perform (.insert table row) = (.error f, db.note (.insert table row)) :=
  h.perform_of_failure ht

lemma Firm.perform_insert (h : db.Firm) {table : String} (ht : db.failure? table .insert = none)
    (row : Row) :
    db.perform (.insert table row) =
      match db.violation? table row with
      | .error f => (.error f, db)
      | .ok (some e) => (.error (.rejected e), db.note (.insert table row))
      | .ok none =>
        (db.reply table (identified table (db.rows table).length row), db.inserted table row) :=
  h.perform_of_none ht

lemma Firm.perform_delete (h : db.Firm) (table : String) (filters : List Filter) :
    (∃ f, db.failure? table .delete = some f ∧ (db.perform (.delete table filters)).1 = .error f) ∨
      db.failure? table .delete = none ∧
        ∃ rows, (db.perform (.delete table filters)).1 = .ok rows := by
  cases hf : db.failure? table .delete with
  | some f =>
    have hperform := h.perform_of_failure (show db.failure? (Call.delete table filters).table
      (Call.delete table filters).kind = some f from hf)
    exact .inl ⟨f, rfl, congrArg Prod.fst hperform⟩
  | none =>
    have hperform := h.perform_of_none (show db.failure? (Call.delete table filters).table
      (Call.delete table filters).kind = none from hf)
    exact .inr ⟨rfl, _, congrArg Prod.fst hperform⟩

/-- What inserts into a table answer: none can, all the same, or each its row. -/
lemma reply_cases (db : Database) (table : String) :
    (∀ stored, db.reply table stored = .error .badType) ∨
      (∃ v, ∀ stored, db.reply table stored = .ok v) ∨
        ∀ stored, db.reply table stored = .ok (.list [.object stored]) := by
  unfold reply
  cases hpart : db.replies.part? table with
  | error f =>
    have hf : f = .badType := by
      unfold Value.part? at hpart
      split at hpart <;> first | split at hpart | skip
      all_goals cases hpart
      all_goals rfl
    exact .inl fun _ => hf ▸ rfl
  | ok part =>
    cases part with
    | none => exact .inr (.inr fun _ => rfl)
    | some v => exact .inr (.inl ⟨v, fun _ => rfl⟩)

lemma Firm.perform_select (h : db.Firm) (table : String) (filters : List Filter)
    (order : List String) :
    db.perform (.select table filters order) =
      (match db.failure? table .select with
        | some f => .error f
        | none => .ok (db.found table filters order),
      db.note (.select table filters order)) := by
  cases hf : db.failure? table .select with
  | some f => exact h.perform_of_failure hf
  | none => exact h.perform_of_none hf

/-- A query that takes effect spares the tables that are not its own, and all if it looks up. -/
lemma spares_applyRows {c : Call} (hc : c.kind = .select ∨ ¬kept c.table) :
    Spares kept db ((db.note c).applyRows c).2 := by
  have hset : ∀ rows, ¬kept c.table → Spares kept db ((db.note c).setRows c.table rows) := by
    intro rows hkept
    refine ⟨rfl, fun table ht => ?_⟩
    have hne : table ≠ c.table := fun heq => hkept (heq ▸ ht)
    rw [rows_setRows, if_neg hne, rows_note]
  cases c with
  | select => exact spares_note kept db _
  | insert | update | delete => exact hset _ (hc.resolve_left (by simp [Call.kind]))

/-- The rows of a table change only by a query on the table that is no look-up. -/
lemma Firm.perform_spares (h : db.Firm) {c : Call} (hc : c.kind = .select ∨ ¬kept c.table) :
    Spares kept db (db.perform c).2 := by
  cases hf : db.failure? c.table c.kind with
  | some f =>
    rw [h.perform_of_failure hf]
    exact spares_note kept db c
  | none =>
    rw [h.perform_of_none hf]
    split
    · exact .refl kept db
    · exact spares_note kept db c
    · exact spares_applyRows hc

end Database

/-- A query that leaves the rows of some tables alone. -/
def Call.LeavesAlone (kept : String → Prop) (c : Call) : Prop := c.kind = .select ∨ ¬kept c.table

/-- A look-up in some tables. -/
def Call.LooksInto (seen : String → Prop) : Call → Prop
  | .select table .. => seen table
  | _ => False

namespace Session

open Database

variable {α β : Type} {s : Session α} {db mid db' : Database} {kept : String → Prop}

lemma run_bind_eq_ok {f : α → Session β} {b : β} : (s >>= f).run db = (.ok b, db') ↔
    ∃ a mid, s.run db = (.ok a, mid) ∧ (f a).run mid = (.ok b, db') :=
  Program.run_bind_eq_ok

lemma run_pure_eq_ok {a b : α} : (pure a : Session α).run db = (.ok b, db') ↔ a = b ∧ db = db' :=
  Program.run_pure_eq_ok

lemma run_ofExcept (r : Except Fault α) (db : Database) :
    Session.run (Program.ofExcept r) db = (r, db) := by
  cases r <;> rfl

lemma run_ofExcept_eq_ok {r : Except Fault α} {a : α} :
    Session.run (Program.ofExcept r) db = (.ok a, db') ↔ r = .ok a ∧ db = db' := by
  rw [run_ofExcept, Prod.mk.injEq]

lemma run_attempt (c : Call) (onAnswer : c.Answer → Session α) (onFault : CallFault → Session α)
    (db : Database) : (attempt c onAnswer onFault).run db =
      match (db.perform c).1 with
      | .ok answer => (onAnswer answer).run (db.perform c).2
      | .error f => (onFault f).run (db.perform c).2 := by
  rw [attempt, run, Program.run]
  cases (db.perform c).1 <;> rfl

/-- A query that is attempted has a result after its answer or after its fault. -/
lemma run_attempt_eq_ok {c : Call} {onAnswer : c.Answer → Session α}
    {onFault : CallFault → Session α} {a : α} :
    (attempt c onAnswer onFault).run db = (.ok a, db') ↔
      (∃ answer, (db.perform c).1 = .ok answer ∧
        (onAnswer answer).run (db.perform c).2 = (.ok a, db')) ∨
      ∃ f, (db.perform c).1 = .error f ∧ (onFault f).run (db.perform c).2 = (.ok a, db') := by
  rw [run_attempt]
  cases (db.perform c).1 <;> simp

lemma run_execute_eq_ok {c : Call} {answer : c.Answer} :
    (execute c).run db = (.ok answer, db') ↔ db.perform c = (.ok answer, db') := by
  rw [execute, run_attempt]
  rcases db.perform c with ⟨e | a, mid⟩ <;> simp [run, Program.run]

/-- A look-up that no failure is scripted for finds the rows. -/
lemma run_lookup_eq_ok (hdb : db.Firm) {table : String} {filters : List Filter}
    {order : List String} {rows : List Row} :
    (lookup table filters order).run db = (.ok rows, db') ↔
      db.failure? table .select = none ∧ db.found table filters order = rows ∧
        db.note (.select table filters order) = db' := by
  rw [lookup, run_attempt, hdb.perform_select]
  cases db.failure? table .select <;> simp [run, Program.run]

/-- The rows of tables that no query writes stay. -/
lemma run_spares (hdb : db.Firm) (hs : s.Asks (Call.LeavesAlone kept)) {r : Except Fault α}
    (h : s.run db = (r, db')) : Spares kept db db' := by
  obtain rfl : (s.run db).2 = db' := congrArg Prod.snd h
  clear h
  induction s generalizing db with
  | done a => exact .refl kept db
  | fault e => exact .refl kept db
  | ask c next ih =>
    have hstep : Spares kept db (db.perform c).2 := hdb.perform_spares hs.1
    exact hstep.trans (ih _ (hstep.firm hdb) (hs.2 _))

lemma run_eq_of_spares (hdb : db.Firm) (h : Spares kept db db')
    (hs : s.Asks (Call.LooksInto kept)) : (s.run db').1 = (s.run db).1 := by
  induction s generalizing db db' with
  | done a => rfl
  | fault e => rfl
  | ask c next ih =>
    obtain ⟨hc, hnext⟩ := hs
    cases c with
    | insert | update | delete => exact hc.elim
    | select table filters order =>
      have hfound : db'.found table filters order = db.found table filters order := by
        rw [found, h.rows table hc, found]
      have hnote : Spares kept (db.note (.select table filters order))
          (db'.note (.select table filters order)) :=
        ⟨by rw [← h.frame]; rfl, h.rows⟩
      simp only [run, Program.run, hdb.perform_select, (h.firm hdb).perform_select, h.failure?_eq,
        hfound]
      exact ih _ (hdb.note _) hnote (hnext _)

end Session
end EditorialDesk
