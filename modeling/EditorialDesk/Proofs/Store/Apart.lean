import EditorialDesk.Proofs.Database.Admission
import EditorialDesk.Proofs.Program.Dialogue
import EditorialDesk.Proofs.Store.Neighbours
import EditorialDesk.Proofs.Store.Register
import EditorialDesk.Proofs.Store.Scope

/-!
# Requests beside neighbours

Of two databases the second has neighbours. A request that is about the context of the first,
and about no group of the neighbours, is answered alike on both and changes both alike: what
it looks up in the directory is found alike, and its other queries do not look there.
-/
namespace EditorialDesk

open Database Store

/-- A query that has nothing to do with the directory, and assigns nobody through a group with a
fresh identity. -/
structure Call.IsApart (fresh : String → Prop) (c : Call) : Prop where
  table : c.table ∉ Table.directory
  named : IsNamed c
  assigns : c.table = Table.stageAssignments → ∀ orphans rows,
    (∀ row ∈ rows, ¬ fresh (Fields.label row "user_group_id")) →
      ∀ row ∈ effect orphans rows c, ¬ fresh (Fields.label row "user_group_id")

/-- An answer of no assignments through groups with fresh identities. -/
def Call.IsClear (fresh : String → Prop) : (c : Call) → Except CallFault c.Answer → Prop
  | .select table _ _, .ok rows =>
    table = Table.stageAssignments → ∀ row ∈ rows, ¬ fresh (row.label "user_group_id")
  | _, _ => True

/-- A request about a submission or its context, and about no group with a fresh identity. -/
def Request.IsLocal (s : Submission) (fresh : String → Prop) : Request → Prop
  | .groupsForStage context _ | .groupsForUser _ context | .subEditors _ context |
    .managers context => context = .text s.contextId
  | .group id | .members id _ => ∃ g, id = .text g ∧ ¬ fresh g
  | .assignments query => query.stage = none
  | .enroll e => e.submissionId = .text s.id ∧ ¬ fresh e.groupId.label
  | .notify notice => notice.userId.isName = true
  | .withdraw .. | .log _ | .save _ => True

/-- An answer that tells of no group with a fresh identity. -/
def Request.IsClear (fresh : String → Prop) : (q : Request) → q.Answer → Prop
  | .groupsForStage .., groups | .groupsForUser .., groups => ∀ g ∈ groups, ¬ fresh g.id
  | .group _, found => ∀ g ∈ found, ¬ fresh g.id
  | .assignments _, found => ∀ a ∈ found, ¬ fresh a.seat.groupId
  | .members .., _ | .subEditors .., _ | .managers _, _ | .enroll _, _ | .notify _, _ |
    .withdraw .., _ | .log _, _ | .save _, _ => True

variable {contextId : String} {fresh : String → Prop}

/-! ## What the requests ask -/

lemma isApart_select {table : String} (htable : table ∉ Table.directory) (filters : List Filter)
    (order : List String) : (Call.select table filters order).IsApart fresh where
  table := htable
  named := trivial
  assigns _ _ _ h := h

section Writing

variable {table : String} (htable : table ∉ Table.directory) (hne : table ≠ Table.stageAssignments)
include htable hne

lemma isApart_insert {row : Row} (hrow : IsNamed (.insert table row)) :
    (Call.insert table row).IsApart fresh :=
  ⟨htable, hrow, fun h => absurd h hne⟩

lemma isApart_update (patch : Row) (filters : List Filter) :
    (Call.update table patch filters).IsApart fresh :=
  ⟨htable, trivial, fun h => absurd h hne⟩

lemma isApart_delete (filters : List Filter) : (Call.delete table filters).IsApart fresh :=
  ⟨htable, trivial, fun h => absurd h hne⟩

end Writing

namespace Store

lemma assignments_upholds {q : AssignmentQuery} (hq : q.stage = none) :
    (assignments q).Upholds (Call.IsApart fresh) (Call.IsClear fresh)
      fun found => ∀ a ∈ found, ¬ fresh a.seat.groupId := by
  unfold assignments
  rw [hq]
  refine ⟨isApart_select (by decide) _ _, fun r hr => ?_⟩
  cases r with
  | error fault => trivial
  | ok rows =>
    refine Program.upholds_ofExcept fun found hfound a ha => ?_
    obtain ⟨row, hrow, hread⟩ := exists_of_mem_mapM hfound ha
    have hseat := seat_of_assignmentOf hread
    have hgroup : a.seat.groupId = row.label "user_group_id" :=
      (List.cons.inj (List.cons.inj hseat).2).1
    exact hgroup ▸ hr rfl row hrow

lemma enroll_apart {now : Calendar.Moment} {e : Enrollment} (he : ¬ fresh e.groupId.label) :
    (enroll now e).Asks (Call.IsApart fresh) := by
  have htable : Table.stageAssignments ∉ Table.directory := by decide
  refine enroll_asks ⟨htable, fun h => absurd h (by decide), ?_⟩
  intro _ orphans rows hrows row hrow
  rw [effect] at hrow
  split at hrow
  · exact hrows row hrow
  · rcases List.mem_append.1 hrow with hold | hnew
    · exact hrows row hold
    · rw [List.mem_singleton.1 hnew, label_identified (by decide)]
      exact he

lemma notify_apart {now : Calendar.Moment} {n : Notice} (hn : n.userId.isName = true) :
    (notify now n).Asks (Call.IsApart fresh) :=
  notify_asks (isApart_insert (by decide) (by decide) fun _ => hn)

lemma withdraw_apart (types : List NotificationType) (target : TargetType) (targetId : Value) :
    (withdraw types target targetId).Asks (Call.IsApart fresh) :=
  withdraw_asks (isApart_delete (by decide) (by decide) _)

lemma log_apart (now : Calendar.Moment) (event : Event) :
    (log now event).Asks (Call.IsApart fresh) :=
  log_asks (isApart_insert (by decide) (by decide) fun h => absurd h (by decide))
    (isApart_update (by decide) (by decide) _ _)

lemma save_apart (s : Submission) : (save s).Asks (Call.IsApart fresh) :=
  save_asks (isApart_update (by decide) (by decide) _ _)

end Store

/-! ## Two databases -/

namespace Database.Beside

variable {db db' : Database} {α : Type}

lemma orphans (h : Beside contextId fresh db db') : db'.orphans = db.orphans := by rw [← h.frame]

/-- Nothing but tables outside the directory has changed, and these in the same way. -/
lemma of_later {t t' : Database} (h : Beside contextId fresh db db')
    (ht : ({ db with tables := t.tables, calls := t.calls } : Database) = t)
    (ht' : ({ db' with tables := t'.tables, calls := t'.calls } : Database) = t')
    (hdirectory : ∀ table ∈ Table.directory,
      t.rows table = db.rows table ∧ t'.rows table = db'.rows table)
    (hsame : ∀ table ∉ Table.directory, t'.rows table = t.rows table)
    (hassignment : ∀ row ∈ t.rows Table.stageAssignments, ¬ fresh (row.label "user_group_id")) :
    Beside contextId fresh t t' := by
  obtain ⟨hgroups, hgroups'⟩ := hdirectory Table.userGroups (by decide)
  obtain ⟨hstages, hstages'⟩ := hdirectory Table.userGroupStages (by decide)
  obtain ⟨hmemberships, hmemberships'⟩ := hdirectory Table.memberships (by decide)
  obtain ⟨heditors, heditors'⟩ := hdirectory Table.subEditors (by decide)
  exact {
    frame := by rw [← ht', ← ht, ← h.frame]
    groups := by
      rw [hgroups, hgroups']
      exact h.groups
    stages := by
      rw [hstages, hstages']
      exact h.stages
    memberships := by
      rw [hmemberships, hmemberships']
      exact h.memberships
    subEditors := by
      rw [heditors, heditors']
      exact h.subEditors
    same := hsame
    group := by
      rw [hgroups]
      exact h.group
    assignment := hassignment
    plain := h.plain.of_frame ht
    roles := by
      rw [hgroups]
      exact h.roles }

/-- A query that is apart from the directory is answered alike, and has the same effect. -/
lemma perform (h : Beside contextId fresh db db') {c : Call} (hc : c.IsApart fresh) :
    (db'.perform c).1 = (db.perform c).1 ∧
      Beside contextId fresh (db.perform c).2 (db'.perform c).2 := by
  have hrows : db'.rows c.table = db.rows c.table := h.same _ hc.table
  have heffect := h.plain.rows_perform hc.named
  have heffect' := h.plain'.rows_perform hc.named
  refine ⟨?_, h.of_later (h.plain.perform_frame hc.named) (h.plain'.perform_frame hc.named)
    (fun table ht => ?_) (fun table ht => ?_) fun row hrow => ?_⟩
  · cases c with
    | select table filters order =>
      have hfound : db'.found table filters order = db.found table filters order :=
        congrArg (fun rows => arrange order (List.filter (meets filters) rows)) hrows
      rw [h.plain.perform_select, h.plain'.perform_select, hfound]
    | insert table row =>
      change db'.rows table = db.rows table at hrows
      rw [h.plain.perform_insert hc.named, h.plain'.perform_insert hc.named, hrows, h.orphans]
      split <;> rfl
    | update table patch filters =>
      change db'.rows table = db.rows table at hrows
      rw [h.plain.perform_update, h.plain'.perform_update, hrows]
    | delete table filters =>
      change db'.rows table = db.rows table at hrows
      rw [h.plain.perform_delete, h.plain'.perform_delete, hrows]
  · have hne : table ≠ c.table := fun heq => hc.table (heq ▸ ht)
    rw [heffect, heffect', if_neg hne, if_neg hne]
    exact ⟨rfl, rfl⟩
  · rw [heffect, heffect', h.orphans, h.same table ht]
  · rw [heffect] at hrow
    split at hrow
    · next heq => exact hc.assigns heq.symm _ _ h.assignment row hrow
    · exact h.assignment row hrow

lemma isClear_perform (h : Beside contextId fresh db db') (c : Call) :
    c.IsClear fresh (db.perform c).1 := by
  cases c with
  | select table filters order =>
    rw [h.plain.perform_select]
    rintro rfl row hrow
    exact h.assignment row (mem_found.1 hrow).1
  | _ => trivial

/-- A session whose queries are apart from the directory runs alike. -/
lemma session (h : Beside contextId fresh db db') {p : Session α} {post : α → Prop}
    (hp : p.Upholds (Call.IsApart fresh) (Call.IsClear fresh) post) :
    (p.run db').1 = (p.run db).1 ∧ Beside contextId fresh (p.run db).2 (p.run db').2 ∧
      ∀ a, (p.run db).1 = .ok a → post a := by
  refine hp.run_alike (fun c s t hc hst => ?_) h
  obtain ⟨hanswer, hbeside⟩ := hst.perform hc
  refine ⟨congrArg Except.ok hanswer, hbeside, fun r hr => ?_⟩
  exact Except.ok.inj hr ▸ hst.isClear_perform c

lemma reads (h : Beside contextId fresh db db') {p : Session α} {a : α} {post : α → Prop}
    (hp : p.Reads db a) (hp' : p.Reads db' a) (hpost : post a) :
    (p.run db').1 = (p.run db).1 ∧ Beside contextId fresh (p.run db).2 (p.run db').2 ∧
      ∀ a, (p.run db).1 = .ok a → post a := by
  obtain ⟨_, _, t, hrun, ⟨rfl, rfl, ht⟩, hleads⟩ := run_of_meets (hp db (.refl db))
  obtain ⟨_, _, t', hrun', ⟨rfl, rfl, ht'⟩, hleads'⟩ := run_of_meets (hp' db' (.refl db'))
  have hrows := hleads.rows_eq h.plain
  have hrows' := hleads'.rows_eq h.plain'
  rw [hrun, hrun']
  refine ⟨rfl, h.of_later ht.frame ht'.frame (fun table _ => ⟨hrows table, hrows' table⟩)
    (fun table ht => ?_) fun row hrow => ?_, fun b hb => Except.ok.inj hb ▸ hpost⟩
  · rw [hrows, hrows']
    exact h.same table ht
  · rw [hrows] at hrow
    exact h.assignment row hrow

/-- A request that is about the context is answered alike, and changes both databases alike. What it
is answered tells of no group with a fresh identity. -/
theorem request {s : Submission} (h : Beside s.contextId fresh db db')
    (clock : Reading Calendar.Moment) {q : Request} (hq : q.IsLocal s fresh) :
    ((Store.session clock q).run db').1 = ((Store.session clock q).run db).1 ∧
      Beside s.contextId fresh ((Store.session clock q).run db).2
        ((Store.session clock q).run db').2 ∧
      ∀ r, ((Store.session clock q).run db).1 = .ok r → q.IsClear fresh r := by
  have hname : ∀ s : String, (Value.text s).isName = true := fun _ => rfl
  cases q with
  | groupsForStage context stage =>
    obtain rfl : context = .text s.contextId := hq
    have hread := reads_groupsForStage h.plain' (h.haveRoles' (h.openRows_eq stage))
    rw [h.groupsForStage_eq] at hread
    exact h.reads (reads_groupsForStage h.plain (h.haveRoles _ _)) hread
      fun g hg => h.not_fresh_of_mem hg
  | groupsForUser userId context =>
    obtain rfl : context = .text s.contextId := hq
    have hread := reads_groupsForUser h.plain' (h.haveRoles' (h.membershipRows_eq userId))
    rw [h.groupsForUser_eq] at hread
    exact h.reads (reads_groupsForUser h.plain (h.haveRoles _ _)) hread
      fun g hg => h.not_fresh_of_mem hg
  | group id =>
    obtain ⟨id, rfl, hid⟩ := hq
    have hread := reads_group? h.plain' (hname id) (h.haveRoles' (h.groupRows_singleton_eq hid))
    rw [h.group?_eq hid] at hread
    exact h.reads (reads_group? h.plain (hname id) (h.haveRoles _ _)) hread
      fun g hg => h.not_fresh_of_mem (List.mem_of_mem_head? hg)
  | members id context =>
    obtain ⟨id, rfl, hid⟩ := hq
    have hread := reads_members h.plain' (hname id)
      (h.haveRoles' (h.groupRows_singleton_eq hid)) context
    rw [h.members_eq hid] at hread
    exact h.reads (reads_members h.plain (hname id) (h.haveRoles _ _) context) hread trivial
  | subEditors grouping context =>
    obtain rfl : context = .text s.contextId := hq
    have hread := reads_subEditors h.plain' grouping (.text s.contextId)
    rw [h.subEditors_eq] at hread
    exact h.reads (reads_subEditors h.plain grouping _) hread trivial
  | managers context =>
    obtain rfl : context = .text s.contextId := hq
    have hread := reads_managers h.plain' (.text s.contextId)
    rw [h.managers_eq] at hread
    exact h.reads (reads_managers h.plain _) hread trivial
  | assignments query => exact h.session (assignments_upholds hq)
  | enroll e => exact h.session (atClock_asks clock fun _ => enroll_apart hq.2).upholds
  | notify n => exact h.session (atClock_asks clock fun _ => notify_apart hq).upholds
  | withdraw types target targetId =>
    exact h.session (withdraw_apart types target targetId).upholds
  | log event => exact h.session (atClock_asks clock fun now => log_apart now event).upholds
  | save x => exact h.session (save_apart x).upholds

end Database.Beside
end EditorialDesk
