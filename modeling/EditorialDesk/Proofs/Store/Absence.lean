import EditorialDesk.Proofs.Database.Report
import EditorialDesk.Proofs.Intake.Enrollment
import EditorialDesk.Proofs.Store.Scope
import EditorialDesk.Proofs.Store.Surrender
import Mathlib.Data.List.Find
import Mathlib.Data.List.TakeWhile

/-!
# Tables that are missing

A look-up that fails because its table is missing ends with the name of a table. The name is
looked for in all that the error says, in a fixed order. A table is named rightly as long as
the other parts of the error, such as a suggestion of what may have been meant, mention none
that comes before it in that order.
-/
namespace EditorialDesk

open Text

namespace Session

variable {α : Type} {f : CallFault} {c : Call} {P : Call → Prop} {db : Database}

/-- On its way from a state the session puts the query, and there it fails. -/
def FailsAt (c : Call) (f : CallFault) : Session α → Database → Prop
  | .done _, _ => False
  | .fault _, _ => False
  | .ask c' next, db =>
    c' = c ∧ (db.perform c').1 = .error f ∨
      FailsAt c f (next (db.perform c').1) (db.perform c').2

/-- A query that fails has been put. -/
lemma FailsAt.asked {p : Session α} (h : p.FailsAt c f db) (hp : p.Asks P) : P c := by
  induction p generalizing db with
  | done a => exact h.elim
  | fault e => exact h.elim
  | ask c' next ih =>
    rcases h with ⟨rfl, -⟩ | h
    · exact hp.1
    · exact ih _ h (hp.2 _)

/-- A session that surrenders ends where a query of it fails. -/
lemma run_of_failsAt {p : Session α} (h : p.FailsAt c f db) (hp : p.Surrenders f) :
    (p.run db).1 = .error (c.surfaced f) := by
  induction p generalizing db with
  | done a => exact h.elim
  | fault e => exact h.elim
  | ask c' next ih =>
    change (run (next (db.perform c').1) (db.perform c').2).1 = _
    rcases h with ⟨rfl, hfails⟩ | h
    · rw [hfails, hp.1]
      rfl
    · exact ih _ h (hp.2 _)

end Session

namespace Table

/-- The tables that are looked for before a table. -/
def ahead (t : String) : List String := searched.takeWhile (· != t)

lemma isWord_of_searched {t : String} (h : t ∈ searched) : IsWord t := by
  have hall : ∀ t ∈ searched, IsWord t := by decide
  exact hall t h

/-- A search finds a table that qualifies if none before it does. -/
lemma find?_eq_some_iff_takeWhile {tables : List String} {t : String} {p : String → Bool}
    (ht : t ∈ tables) (hp : p t = true) :
    tables.find? p = some t ↔ ∀ x ∈ tables.takeWhile (· != t), p x = false := by
  induction tables with
  | nil => cases ht
  | cons x rest ih =>
    rw [List.find?_cons, List.takeWhile_cons]
    by_cases hx : x = t
    · simp [hx, hp]
    · have hrest := ih ((List.mem_cons.1 ht).resolve_left (Ne.symm hx))
      cases hpx : p x with
      | true => simp [hx, hpx]
      | false => simpa [hx, hpx] using hrest

end Table

namespace DatabaseError

variable {e : DatabaseError} {t : String}

/-- The words in which the absence of a table is reported. -/
def absence (t : String) : String :=
  "Could not find the table 'public." ++ t ++ "' in the schema cache"

/-- An error by which a table is reported missing, whatever else it says. -/
structure Reports (e : DatabaseError) (t : String) : Prop where
  code : e.code = .text "PGRST205"
  message : e.message = .text (absence t)

lemma not_fieldMentions_code {x : String} (hx : x ∈ Table.searched) :
    Value.fieldMentions ("code", .text "PGRST205") x = false := by
  have hall : ∀ x ∈ Table.searched, (occursIn x.toList ("code".toList.map Char.toLower) ||
      occursIn x.toList ("PGRST205".toList.map Char.toLower)) = false := by
    decide +kernel
  have hword := (Table.isWord_of_searched hx).isPhrase
  rw [Value.fieldMentions_text hword (by decide) (by decide)]
  exact hall x hx

/-- The message of such an error mentions the missing table, and none that is looked for before
it. -/
lemma fieldMentions_absence (ht : t ∈ Table.searched) {x : String}
    (hx : x = t ∨ x ∈ Table.ahead t) :
    Value.fieldMentions ("message", .text (absence t)) x = (x == t) := by
  have hall : ∀ t ∈ Table.searched, IsBasic (absence t) ∧ ∀ x ∈ t :: Table.ahead t,
      x ∈ Table.searched ∧ (occursIn x.toList ("message".toList.map Char.toLower) ||
      occursIn x.toList ((absence t).toList.map Char.toLower)) = (x == t) := by
    decide +kernel
  obtain ⟨hbasic, hmentions⟩ := hall t ht
  obtain ⟨hsearched, heq⟩ := hmentions x (List.mem_cons.2 hx)
  have hword := (Table.isWord_of_searched hsearched).isPhrase
  rw [Value.fieldMentions_text hword (by decide) hbasic]
  exact heq

/-- The table that such an error is taken to report is the first that it mentions. -/
lemma Reports.missingTable?_eq (h : e.Reports t) :
    e.missingTable? = Table.searched.find? (mentions e.printed) := by
  have hmark : holds e.text "pgrst205" = true := by
    refine (holds_text_iff e (by decide)).2 ?_
    exact mentions_printed_of_mem (by decide) (Value.mem_of_get h.code nofun) (by decide +kernel)
  rw [missingTable?, missingTableIn?, hmark, Bool.true_or, if_pos rfl]
  refine List.find?_congr fun x hx => ?_
  exact Bool.eq_iff_iff.2 (holds_text_iff e (Table.isWord_of_searched hx))

/-- What such an error mentions ahead of the missing table stands neither in its code nor in its
message. -/
lemma Reports.mentions_ahead_iff (h : e.Reports t) (ht : t ∈ Table.searched) {x : String}
    (hx : x ∈ Table.ahead t) : mentions e.printed x = false ↔
      ∀ f ∈ e.payload, f ≠ ("code", e.code) → f ≠ ("message", e.message) →
        Value.fieldMentions f x = false := by
  have hsearched : x ∈ Table.searched := (List.takeWhile_prefix _).subset hx
  have hne : (x == t) = false := by
    simpa using List.mem_takeWhile_imp hx
  rw [Bool.eq_false_iff, ne_eq, printed,
    Value.mentions_printed_iff (Table.isWord_of_searched hsearched), h.code, h.message]
  simp only [not_exists, not_and, Bool.not_eq_true]
  constructor
  · exact fun hnone f hf _ _ => hnone f hf
  · intro hothers f hf
    by_cases hcode : f = ("code", .text "PGRST205")
    · rw [hcode]
      exact not_fieldMentions_code hsearched
    by_cases hmessage : f = ("message", .text (absence t))
    · rw [hmessage, fieldMentions_absence ht (.inr hx), hne]
    · exact hothers f hf hcode hmessage

lemma Reports.mentions_self (h : e.Reports t) (ht : t ∈ Table.searched) :
    mentions e.printed t = true := by
  refine (Value.mentions_printed_iff (Table.isWord_of_searched ht)).2
    ⟨("message", .text (absence t)), Value.mem_of_get h.message nofun, ?_⟩
  rw [fieldMentions_absence ht (.inl rfl), beq_self_eq_true]

end DatabaseError

namespace Store

open Database Session

variable {db : Database} {f : CallFault} {e : DatabaseError} {t : String} {filters : List Filter}
  {order : List String} {clock : Reading Calendar.Moment} {q : Request}

/-- Every request ends where a look-up of it fails, and reports the table if one is missing. -/
lemma run_of_lookup_failsAt (h : (session clock q).FailsAt (.select t filters order) f db) :
    ((session clock q).run db).1 = .error (.ofLookup f) := by
  cases q with
  | enroll e =>
    exact (h.asked (P := (∀ t filters order, · ≠ .select t filters order))
      (atClock_asks clock fun now => enroll_asks nofun) t filters order rfl).elim
  | notify n =>
    exact (h.asked (P := (∀ t filters order, · ≠ .select t filters order))
      (atClock_asks clock fun now => notify_asks nofun) t filters order rfl).elim
  | _ => exact run_of_failsAt h (surrenders_plain f clock nofun nofun)

/-- A look-up that fails because its table is missing names the first table that the error mentions.
That is the missing one exactly if none that comes before it is mentioned in the other parts of
the error. -/
theorem absent_table_named (ht : t ∈ Table.searched) (he : e.Reports t)
    (h : (session clock q).FailsAt (.select t filters order) (.rejected e) db) :
    ∃ named, ((session clock q).run db).1 = .error (.missingTable named) ∧
      Table.searched.find? (mentions e.printed) = some named ∧
      (named = t ↔ ∀ x ∈ Table.ahead t, ∀ f ∈ e.payload,
        f ≠ ("code", e.code) → f ≠ ("message", e.message) → Value.fieldMentions f x = false) := by
  have hself := he.mentions_self ht
  obtain ⟨named, hnamed⟩ : ∃ named, Table.searched.find? (mentions e.printed) = some named :=
    Option.isSome_iff_exists.1 (List.find?_isSome.2 ⟨t, ht, hself⟩)
  refine ⟨named, ?_, hnamed, ?_⟩
  · rw [run_of_lookup_failsAt h, Fault.ofLookup, he.missingTable?_eq, hnamed]
  · have hfirst := Table.find?_eq_some_iff_takeWhile ht hself
    rw [hnamed, Option.some_inj] at hfirst
    exact hfirst.trans (forall₂_congr fun x hx => he.mentions_ahead_iff ht hx)

/-- The report of a missing table, with a suggestion. -/
def absenceWithHint (t hint : String) : DatabaseError :=
  ⟨[("code", .text "PGRST205"), ("message", .text (DatabaseError.absence t)), ("details", .null),
    ("hint", .text hint)]⟩

/-- The small office, where the look-ups in a table fail. -/
def officeWithout (t : String) (e : DatabaseError) : Database :=
  office.script ⟨t, "select", some 0, .rejected e⟩

def lostMemberships : DatabaseError :=
  absenceWithHint Table.memberships "Perhaps you meant the table 'public.user_groups'"

/-- The table of memberships is looked for first, so it is named whatever is suggested. -/
theorem lostMemberships_named :
    Table.memberships ∈ Table.searched ∧ lostMemberships.Reports Table.memberships ∧
    (session (.shows Intake.dawn) (.groupsForUser (.text "u-1") (.text "ctx-1"))).FailsAt
      (.select Table.memberships [.equals "user_id" "u-1"] []) (.rejected lostMemberships)
      (officeWithout Table.memberships lostMemberships) ∧
    ((session (.shows Intake.dawn) (.groupsForUser (.text "u-1") (.text "ctx-1"))).run
      (officeWithout Table.memberships lostMemberships)).1 =
        .error (.missingTable Table.memberships) := by
  have ht : Table.memberships ∈ Table.searched := by decide
  have he : lostMemberships.Reports Table.memberships := ⟨rfl, rfl⟩
  have hfails : (session (.shows Intake.dawn)
      (.groupsForUser (.text "u-1") (.text "ctx-1"))).FailsAt
        (.select Table.memberships [.equals "user_id" "u-1"] []) (.rejected lostMemberships)
        (officeWithout Table.memberships lostMemberships) := .inl ⟨rfl, rfl⟩
  refine ⟨ht, he, hfails, ?_⟩
  obtain ⟨named, hrun, -, hiff⟩ := absent_table_named ht he hfails
  rw [hrun, hiff.2 fun x hx => absurd hx List.not_mem_nil]

def lostGroups : DatabaseError :=
  absenceWithHint Table.userGroups "Perhaps you meant the table 'public.user_user_groups'"

/-- The query for the groups of managers of a journal. -/
def managerQuery : Call :=
  .select Table.userGroups [.equals "context_id" "ctx-1", .equals "role_id" "16"] []

/-- A table that is only suggested is reported missing in place of the one that is. -/
theorem lostGroups_misnamed :
    Table.userGroups ∈ Table.searched ∧ lostGroups.Reports Table.userGroups ∧
    (session (.shows Intake.dawn) (.managers (.text "ctx-1"))).FailsAt managerQuery
      (.rejected lostGroups) (officeWithout Table.userGroups lostGroups) ∧
    ((session (.shows Intake.dawn) (.managers (.text "ctx-1"))).run
      (officeWithout Table.userGroups lostGroups)).1 ≠ .error (.missingTable Table.userGroups) := by
  have he : lostGroups.Reports Table.userGroups := ⟨rfl, rfl⟩
  have hfails : (session (.shows Intake.dawn) (.managers (.text "ctx-1"))).FailsAt managerQuery
      (.rejected lostGroups) (officeWithout Table.userGroups lostGroups) := .inl ⟨rfl, rfl⟩
  refine ⟨by decide, he, hfails, ?_⟩
  have hhint : mentions lostGroups.printed Table.memberships = true := by
    have hmem : ("hint", lostGroups.payload.get "hint") ∈ lostGroups.payload :=
      Value.mem_of_get rfl nofun
    exact DatabaseError.mentions_printed_of_mem (by decide) hmem
      (holds_lower (by decide +kernel) (by decide +kernel))
  rw [run_of_lookup_failsAt hfails, Fault.ofLookup, he.missingTable?_eq, Table.searched,
    List.find?_cons, hhint]
  decide

end Store
end EditorialDesk
