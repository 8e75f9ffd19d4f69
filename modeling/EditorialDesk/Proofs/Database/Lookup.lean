import EditorialDesk.Proofs.Database.Firm
import EditorialDesk.Proofs.Program.Contract

/-!
# Sessions of look-ups

A session that only looks up comes to what it finds: nothing but the rows of the tables that it
looks into decides about its result. What it finds is computed from these rows, and a run
comes to it wherever the tables are legible.
-/
namespace EditorialDesk.Database

/-!
## Undisturbed tables

A table is undisturbed if it holds rows and no failure is scripted for it, whatever is to
become of the other tables. A query on it meets with a constraint or takes effect, and
leaves everything else as it is: the other tables, and what is scripted for them.
-/

/-- The table holds rows, and no failure is scripted for it. -/
structure Undisturbed (db : Database) (table : String) : Prop where
  scripts : ∀ s ∈ db.scripts, s.table ≠ table
  unreadable : db.unreadable? table = none

variable {db db' : Database} {kept : String → Prop} {table : String}

/-- Failures of other tables neither strike nor are counted down. -/
lemma trigger_of_unconcerned {c : Call} {scripts : List Script}
    (h : ∀ s ∈ scripts, s.table ≠ c.table) : trigger c scripts = .ok (none, scripts) :=
  trigger_of_not_concerns fun s hs => by simp [Script.concerns, h s hs]

/-- On an undisturbed table a constraint decides about a query. -/
lemma Undisturbed.perform_eq {c : Call} (h : db.Undisturbed c.table) :
    db.perform c =
      match db.obstacle? c with
      | .error f => (.error f, db)
      | .ok (some e) => (.error (.rejected e), db.note c)
      | .ok none => (db.note c).applyRows c :=
  perform_of_trigger (trigger_of_unconcerned h.scripts) h.unreadable

lemma Undisturbed.perform_select (h : db.Undisturbed table) (filters : List Filter)
    (order : List String) :
    db.perform (.select table filters order) =
      (.ok (db.found table filters order), db.note (.select table filters order)) :=
  h.perform_eq

lemma Undisturbed.perform_delete (h : db.Undisturbed table) (filters : List Filter) :
    db.perform (.delete table filters) =
      (.ok ((db.rows table).filter (meets filters)),
        (db.note (.delete table filters)).setRows table
          (effect db.orphans (db.rows table) (.delete table filters))) :=
  h.perform_eq

lemma Undisturbed.perform_insert (h : db.Undisturbed table) (row : Row) :
    db.perform (.insert table row) =
      match db.violation? table row with
      | .error f => (.error f, db)
      | .ok (some e) => (.error (.rejected e), db.note (.insert table row))
      | .ok none =>
        (db.reply table (identified table (db.rows table).length row), db.inserted table row) :=
  h.perform_eq

/-- A query that is no look-up changes the rows of its own table only. -/
lemma Undisturbed.perform_spares {c : Call} (h : db.Undisturbed c.table)
    (hc : c.kind = .select ∨ ¬kept c.table) : Spares kept db (db.perform c).2 := by
  rw [h.perform_eq]
  split
  · exact .refl kept db
  · exact spares_note kept db c
  · exact spares_applyRows hc

lemma Spares.symm (h : Spares kept db db') : Spares kept db' db where
  frame := by rw [← h.frame]
  rows table ht := (h.rows table ht).symm

lemma rows_inserted (db : Database) (table : String) (row : Row) :
    (db.inserted table row).rows table =
      db.rows table ++ [identified table (db.rows table).length row] := by
  rw [inserted, rows_setRows, if_pos rfl]

lemma spares_inserted (db : Database) (table : String) (row : Row) :
    Spares (· ≠ table) db (db.inserted table row) :=
  ⟨rfl, fun other hne => by rw [inserted, rows_setRows, if_neg hne, rows_note]⟩

lemma Spares.undisturbed (h : Spares kept db db') (hdb : db.Undisturbed table) :
    db'.Undisturbed table := by
  rw [← h.frame]
  exact ⟨hdb.scripts, hdb.unreadable⟩

end EditorialDesk.Database

/-!
## Legible tables

A table is legible if it holds rows and no failure is scripted for look-ups in it.
Inserts may be scripted to fail, may violate a constraint and may be answered by
anything: each of them stores its row or leaves the rows as they are, and the table
stays legible.
-/
namespace EditorialDesk.Database

/-- The table holds rows, and no failure is scripted for look-ups in it. -/
structure Legible (db : Database) (table : String) : Prop where
  unreadable : db.unreadable? table = none
  scripts : ∀ s ∈ db.scripts, s.table = table → s.word ≠ QueryKind.select.word

variable {db : Database} {table : String}

lemma Undisturbed.legible (h : db.Undisturbed table) : db.Legible table :=
  ⟨h.unreadable, fun s hs ht => absurd ht (h.scripts s hs)⟩

/-- Failures are counted down, but for which queries they are scripted stays. -/
lemma map_aim_trigger {c : Call} {scripts left : List Script} {fault : Option CallFault}
    (h : trigger c scripts = .ok (fault, left)) :
    left.map (fun s => (s.table, s.word)) = scripts.map fun s => (s.table, s.word) := by
  induction scripts generalizing fault left with
  | nil =>
    cases h
    rfl
  | cons s rest ih =>
    rw [trigger] at h
    cases hs : s.concerns c with
    | true =>
      rw [hs, if_pos rfl] at h
      rcases hafter : s.after with _ | _ | n <;> rw [hafter] at h <;> cases h <;> rfl
    | false =>
      rw [hs, if_neg Bool.false_ne_true] at h
      rcases hrest : trigger c rest with e | ⟨f, after⟩ <;> rw [hrest] at h <;> cases h
      rw [List.map_cons, List.map_cons, ih hrest]

lemma Legible.of_trigger (h : db.Legible table) {c : Call} {fault : Option CallFault}
    {left : List Script} (hleft : trigger c db.scripts = .ok (fault, left)) :
    Legible { db with scripts := left } table where
  unreadable := h.unreadable
  scripts s hs ht := by
    have hmem : (s.table, s.word) ∈ db.scripts.map fun s => (s.table, s.word) :=
      map_aim_trigger hleft ▸ List.mem_map.2 ⟨s, hs, rfl⟩
    obtain ⟨t, hmem, haim⟩ := List.mem_map.1 hmem
    obtain ⟨htable, hword⟩ := Prod.mk.inj haim
    exact hword ▸ h.scripts t hmem (htable.trans ht)

lemma Legible.note (h : db.Legible table) (c : Call) : (db.note c).Legible table :=
  ⟨h.unreadable, h.scripts⟩

lemma Legible.setRows (h : db.Legible table) (other : String) (rows : List Row) :
    (db.setRows other rows).Legible table :=
  ⟨h.unreadable, h.scripts⟩

/-- Whatever the tables hold, a table that is legible stays so. -/
lemma Spares.legible {kept : String → Prop} {db' : Database} (hdb : Spares kept db db')
    (h : db.Legible table) : db'.Legible table := by
  rw [← hdb.frame]
  exact ⟨h.unreadable, h.scripts⟩

lemma Legible.perform_select (h : db.Legible table) (filters : List Filter)
    (order : List String) :
    db.perform (.select table filters order) =
      (.ok (db.found table filters order), db.note (.select table filters order)) := by
  have hquiet : ∀ s ∈ db.scripts, s.concerns (.select table filters order) = false := by
    intro s hs
    by_cases ht : s.table = table
    · simp [Script.concerns, Call.kind, h.scripts s hs ht]
    · simp [Script.concerns, Call.table, ht]
  exact perform_of_trigger (trigger_of_not_concerns hquiet) h.unreadable

/-- An insert into a legible table stores its row and is answered as the table answers, or it fails
and leaves the rows as they are. -/
lemma Legible.insert_cases (h : db.Legible table) (row : Row) :
    (db.perform (.insert table row)).2.Legible table ∧
      (db.perform (.insert table row)).2.replies = db.replies ∧
      ((db.perform (.insert table row)).1 =
          db.reply table (identified table (db.rows table).length row) ∧
        (db.perform (.insert table row)).2.rows table =
          db.rows table ++ [identified table (db.rows table).length row] ∨
      (∃ f, (db.perform (.insert table row)).1 = .error f) ∧
        (db.perform (.insert table row)).2.rows table = db.rows table) := by
  unfold perform
  rcases htrigger : trigger (.insert table row) db.scripts with e | ⟨_ | fault, left⟩
  · exact ⟨h, rfl, .inr ⟨⟨e, rfl⟩, rfl⟩⟩
  · have hleft := h.of_trigger htrigger
    dsimp only
    rcases obstacle? { db with scripts := left } (.insert table row) with e | ⟨_ | e⟩
    · exact ⟨hleft, rfl, .inr ⟨⟨e, rfl⟩, rfl⟩⟩
    · have hnote := (hleft.note (.insert table row)).unreadable
      simp only [apply, Call.table, hnote, applyRows]
      exact ⟨(hleft.note _).setRows _ _, rfl, .inl ⟨rfl, rows_setRows_self _ _ _⟩⟩
    · exact ⟨hleft.note _, rfl, .inr ⟨⟨_, rfl⟩, rfl⟩⟩
  · exact ⟨(h.of_trigger htrigger).note _, rfl, .inr ⟨⟨fault, rfl⟩, rfl⟩⟩

end EditorialDesk.Database

/-! ## Sessions of look-ups -/
namespace EditorialDesk

/-- Look-ups in some tables find the rows of a database; nothing else can be asked. -/
def Database.lookups (db : Database) (tables : List String) :
    Contract Call (fun c => Except CallFault c.Answer) Unit Unit where
  may
    | .select table .. => table ∈ tables
    | _ => False
  answers
    | _, .select table filters order, r, ds, _ => r = .ok (db.found table filters order) ∧ ds = []
    | _, _, _, _, _ => False

/-- A session looks into some tables of a database only, and comes to `a` by what it finds. -/
def Session.Finds {α : Type} (db : Database) (tables : List String) (p : Session α) (a : α) :
    Prop :=
  p.Meets (db.lookups tables) () fun b _ _ => b = a

namespace Session

open Database

variable {α β : Type} {db db' : Database} {tables : List String} {a : α} {b : β}

lemma finds_pure : (pure a : Session α).Finds db tables a := rfl

lemma finds_ofExcept {r : Except Fault α} (hr : r = .ok a) :
    Session.Finds db tables (Program.ofExcept r) a := by
  rw [hr]
  exact finds_pure

lemma Finds.bind {p : Session α} {f : α → Session β} (hp : p.Finds db tables a)
    (hf : (f a).Finds db tables b) : (p >>= f).Finds db tables b := by
  unfold Finds at *
  rw [Program.meets_bind]
  refine hp.mono ?_
  rintro a' ds u rfl
  exact hf

lemma finds_lookup {table : String} (ht : table ∈ tables) (filters : List Filter)
    (order : List String) :
    (lookup table filters order).Finds db tables (db.found table filters order) := by
  refine ⟨ht, ?_⟩
  rintro r ds u ⟨rfl, rfl⟩
  rfl

/-- Where the tables are legible, a run comes to it and leaves all rows as they are. -/
theorem Finds.run_eq {p : Session α} (hp : p.Finds db tables a)
    (h : ∀ table ∈ tables, db.Legible table) {t : Database} (ht : Spares (fun _ => True) db t) :
    ∃ t', p.run t = (.ok a, t') ∧ Spares (fun _ => True) db t' := by
  induction p generalizing t with
  | done b =>
    obtain rfl : b = a := hp
    exact ⟨t, rfl, ht⟩
  | fault e => exact hp.elim
  | ask c next ih =>
    obtain ⟨hc, hnext⟩ := hp
    cases c with
    | insert | update | delete => exact hc.elim
    | select table filters order =>
      have hfound : t.found table filters order = db.found table filters order := by
        rw [found, ht.rows table trivial, found]
      have hnote := ht.trans (spares_note _ t (.select table filters order))
      obtain ⟨t', hrun, ht'⟩ := ih _ (hnext _ [] () ⟨rfl, rfl⟩) hnote
      refine ⟨t', ?_, ht'⟩
      rw [run, Program.run, (ht.legible (h table hc)).perform_select, hfound]
      exact hrun

theorem Finds.exists_run {p : Session α} (hp : p.Finds db tables a)
    (h : ∀ table ∈ tables, db.Legible table) : ∃ db', p.run db = (.ok a, db') := by
  obtain ⟨db', hrun, -⟩ := hp.run_eq h (.refl _ db)
  exact ⟨db', hrun⟩

end Session
end EditorialDesk
