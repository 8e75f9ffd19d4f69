import EditorialDesk.Proofs.Record.Reread
import EditorialDesk.Proofs.Store.Steady
import EditorialDesk.Store.Memory
import Mathlib.Data.List.Nodup

/-!
# The store in memory is steady

Rosters and bindings are never written by a request, so that the directory tells the same
in every state. The list of assignments only grows; a seat that was asked for is in it.
-/
namespace EditorialDesk

lemma Fault.ofChecked_eq_ok {α : Type} {c : Record.Checked α} {a : α} :
    Fault.ofChecked c = .ok a ↔ c = .accepted a := by
  cases c <;> simp [Fault.ofChecked]

open Record in
lemma StageAssignment.isFor_ofEnrollment {id : String} {now : Calendar.Moment} {e : Enrollment}
    {a : StageAssignment} (h : ofEnrollment id now e = .accepted a) : e.isFor a.seat = true := by
  obtain ⟨b, hb, rfl⟩ := Checked.map_eq_accepted.1 h
  obtain ⟨-, hsubmission, hgroup, huser, -, -⟩ := ofFields_eq_accepted.1 hb
  have hsub : e.submissionId = .text b.seat.submissionId :=
    Option.some.inj (required_text_eq_accepted hsubmission)
  have hgrp : e.groupId = .text b.seat.groupId :=
    Option.some.inj (required_text_eq_accepted hgroup)
  have husr : e.userId = .text b.seat.userId := Option.some.inj (required_text_eq_accepted huser)
  simp [Enrollment.isFor, hsub, hgrp, husr]

namespace Store

namespace Memory

/-- No two rosters are of one group, and no service is out. -/
structure Sound (m : Memory) : Prop where
  groupIds : (m.rosters.map (·.group.id)).Nodup
  outages : m.outages = []

/-- Stores as they are set up: groups, sub-editors and assignments are added in any order, a group
in place of one of its identity. -/
inductive Made : Memory → Prop
  | empty : Made empty
  | addRoster {m : Memory} (h : Made m) (r : Roster) : Made (m.addRoster r)
  | bind {m m' : Memory} (h : Made m) {b : Binding} (hb : m.bind b = .ok m') : Made m'
  | seed {m m' : Memory} (h : Made m) {submissionId groupId userId : Value}
      (ha : m.seed submissionId groupId userId = .accepted m') : Made m'

lemma map_id_putRoster (rosters : List Roster) (r : Roster) :
    (putRoster rosters r).map (·.group.id) =
      if r.group.id ∈ rosters.map (·.group.id) then rosters.map (·.group.id)
      else rosters.map (·.group.id) ++ [r.group.id] := by
  induction rosters with
  | nil => rfl
  | cons old rest ih =>
    by_cases h : old.group.id = r.group.id
    · simp [putRoster, h]
    · simp only [putRoster, beq_iff_eq, if_neg h, List.map_cons, ih, List.mem_cons, Ne.symm h,
        false_or, List.cons_append]
      split <;> rfl

theorem Made.sound {m : Memory} (h : Made m) : m.Sound := by
  induction h with
  | empty => exact ⟨List.nodup_nil, rfl⟩
  | @addRoster m _ r ih =>
    refine ⟨?_, ih.outages⟩
    rw [Memory.addRoster, map_id_putRoster]
    split
    · exact ih.groupIds
    · next hnew =>
      rw [List.nodup_append]
      refine ⟨ih.groupIds, List.nodup_singleton _, fun a ha b hb heq => hnew ?_⟩
      rw [← List.mem_singleton.1 hb, ← heq]
      exact ha
  | @bind m m' _ b hb ih =>
    unfold Memory.bind at hb
    cases hname : Fault.named b.grouping.id with
    | error fault => simp [hname, Bind.bind, Except.bind] at hb
    | ok id =>
      rw [hname] at hb
      cases hb
      exact ⟨ih.groupIds, ih.outages⟩
  | seed _ ha ih =>
    obtain ⟨a, -, rfl⟩ := Record.Checked.map_eq_accepted.1 ha
    exact ⟨ih.groupIds, ih.outages⟩

/-- A state with the same directory, and perhaps more assignments through groups of editors. -/
structure Later (m m' : Memory) : Prop where
  rosters : m'.rosters = m.rosters
  bindings : m'.bindings = m.bindings
  outages : m'.outages = m.outages
  assignments : ∃ new, m'.assignments = m.assignments ++ new ∧
    ∀ a ∈ new, ∃ r ∈ m.rosters, r.group.id = a.seat.groupId ∧ r.group.role ≠ .author

/-- A state with the same directory, assignments and events. -/
structure Idle (m m' : Memory) : Prop where
  rosters : m'.rosters = m.rosters
  bindings : m'.bindings = m.bindings
  outages : m'.outages = m.outages
  assignments : m'.assignments = m.assignments
  events : m'.events = m.events

def Knows (g : UserGroup) (m : Memory) : Prop := ∃ r ∈ m.rosters, r.group = g

variable {clock : Reading Calendar.Moment} {m m' n : Memory} {g : UserGroup}

lemma idle_refl (m : Memory) : Idle m m := ⟨rfl, rfl, rfl, rfl, rfl⟩

lemma Idle.trans (h : Idle m n) (h' : Idle n m') : Idle m m' :=
  ⟨h'.1.trans h.1, h'.2.trans h.2, h'.3.trans h.3, h'.4.trans h.4, h'.5.trans h.5⟩

lemma Idle.later (h : Idle m m') : Later m m' :=
  ⟨h.rosters, h.bindings, h.outages, [], by rw [h.assignments, List.append_nil],
    fun _ ha => absurd ha List.not_mem_nil⟩

lemma Later.trans (h : Later m n) (h' : Later n m') : Later m m' where
  rosters := h'.rosters.trans h.rosters
  bindings := h'.bindings.trans h.bindings
  outages := h'.outages.trans h.outages
  assignments := by
    obtain ⟨new, hnew, hall⟩ := h.assignments
    obtain ⟨more, hmore, hall'⟩ := h'.assignments
    rw [h.rosters] at hall'
    refine ⟨new ++ more, by rw [hmore, hnew, List.append_assoc], fun a ha => ?_⟩
    exact (List.mem_append.1 ha).elim (hall a) (hall' a)

lemma Later.sound (h : Later m m') (hm : m.Sound) : m'.Sound :=
  ⟨by rw [h.rosters]; exact hm.groupIds, by rw [h.outages]; exact hm.outages⟩

lemma Sound.serve_eq (h : m.Sound) (clock : Reading Calendar.Moment) (q : Request) :
    m.serve clock q = m.answer clock q := by
  rw [serve, h.outages]
  rfl

/-- The directory in a later state is that of the earlier one. -/
lemma answer_of_later (clock clock' : Reading Calendar.Moment) {q : Request}
    (hq : consults q = true) (h : Later m n) :
    n.answer clock' q = ((m.answer clock q).1, n) := by
  cases q with
  | groupsForStage contextId stage => simp [answer, groupsForStage, h.rosters]
  | groupsForUser userId contextId => simp [answer, groupsForUser, h.rosters]
  | group id => simp [answer, group?, roster?, h.rosters]
  | members groupId contextId => simp [answer, members, roster?, h.rosters]
  | subEditors grouping contextId => simp [answer, subEditors, h.bindings]
  | managers contextId => simp [answer, managers, h.rosters]
  | assignments _ | enroll _ | notify _ | withdraw _ _ _ | log _ | save _ =>
    exact absurd hq Bool.noConfusion

/-- The roster of a known group is found by the identity of the group. -/
lemma Sound.roster?_eq (h : m.Sound) {r : Roster} (hr : r ∈ m.rosters) :
    m.roster? (.text r.group.id) = some r := by
  unfold roster?
  cases hfound : m.rosters.find? fun r' => Value.text r.group.id == .text r'.group.id with
  | none =>
    rw [List.find?_eq_none] at hfound
    exact absurd (beq_self_eq_true _) (hfound r hr)
  | some r' =>
    have hid : r'.group.id = r.group.id :=
      have hbeq := List.find?_some hfound
      (Value.text.inj (beq_iff_eq.1 hbeq)).symm
    rw [List.inj_on_of_nodup_map h.groupIds (List.mem_of_find?_eq_some hfound) hr hid]

/-- What is in the list after an enrolment: the seat was taken, or it is now. -/
lemma enroll_cases {e : Enrollment} {r : Option StageAssignment}
    (h : m.enroll clock e = (.ok r, n)) :
    r = none ∧ n = { m with attempts := m.attempts ++ [e] } ∧
        m.assignments.any (e.isFor ·.seat) = true ∨
      ∃ a, r = some a ∧ e.isFor a.seat = true ∧ n = { m with
        attempts := m.attempts ++ [e], assignments := m.assignments ++ [a] } := by
  unfold enroll at h
  by_cases htaken : m.assignments.any (e.isFor ·.seat) = true
  · rw [if_pos htaken] at h
    obtain ⟨hr, rfl⟩ := Prod.mk.inj h
    exact .inl ⟨(Except.ok.inj hr).symm, rfl, htaken⟩
  · rw [if_neg htaken] at h
    split at h
    · cases h
    next a hmade =>
    have hseat : e.isFor a.seat = true := by
      cases hlook : clock.look with
      | error fault =>
        rw [hlook] at hmade
        cases hmade
      | ok now =>
        rw [hlook] at hmade
        exact StageAssignment.isFor_ofEnrollment (Fault.ofChecked_eq_ok.1 hmade)
    obtain ⟨hr, rfl⟩ := Prod.mk.inj h
    exact .inr ⟨a, (Except.ok.inj hr).symm, hseat, rfl⟩

/-- An enrolment through a group of editors, or in vain, keeps what was told. -/
lemma later_enroll {e : Enrollment} {r : Option StageAssignment}
    (h : m.enroll clock e = (.ok r, n))
    (hgroup : r = none ∨ ∃ g, Knows g m ∧ e.groupId = .text g.id ∧ g.role ≠ .author) :
    Later m n := by
  rcases enroll_cases h with ⟨-, rfl, -⟩ | ⟨a, rfl, hseat, rfl⟩
  · exact Idle.later ⟨rfl, rfl, rfl, rfl, rfl⟩
  · refine ⟨rfl, rfl, rfl, [a], rfl, fun b hb => ?_⟩
    obtain ⟨g, ⟨r, hr, rfl⟩, hid, hrole⟩ := hgroup.resolve_left (Option.some_ne_none a)
    simp only [Enrollment.isFor, Bool.and_eq_true, beq_iff_eq] at hseat
    rw [List.mem_singleton.1 hb]
    exact ⟨r, hr, Value.text.inj (hid.symm.trans hseat.1.2), hrole⟩

lemma enroll_taken {e : Enrollment} (h : m.assignments.any (e.isFor ·.seat) = true)
    (clock : Reading Calendar.Moment) :
    m.enroll clock e = (.ok none, { m with attempts := m.attempts ++ [e] }) := by
  unfold enroll
  rw [if_pos h]

/-- A seat that is taken is taken later on. -/
lemma Later.taken (h : Later m n) {e : Enrollment}
    (htaken : m.assignments.any (e.isFor ·.seat) = true) :
    n.assignments.any (e.isFor ·.seat) = true := by
  obtain ⟨new, hnew, -⟩ := h.assignments
  rw [hnew, List.any_append, htaken, Bool.true_or]

lemma taken_of_enroll {e : Enrollment} {r : Option StageAssignment}
    (h : m.enroll clock e = (.ok r, n)) : n.assignments.any (e.isFor ·.seat) = true := by
  rcases enroll_cases h with ⟨-, rfl, htaken⟩ | ⟨a, -, hseat, rfl⟩
  · exact htaken
  · simp [hseat]

/-- The assignments of a user in a later state, among which there may be more. -/
lemma padded_assignments {id : String} {userId : Value} (h : Later m n) :
    Padded (ThroughEditors (Knows · n))
      (m.assignments.filter (m.matchesQuery ⟨.text id, none, none, some userId⟩))
      (n.assignments.filter (n.matchesQuery ⟨.text id, none, none, some userId⟩)) := by
  obtain ⟨new, hnew, hall⟩ := h.assignments
  have hmatches : n.matchesQuery ⟨.text id, none, none, some userId⟩ =
      m.matchesQuery ⟨.text id, none, none, some userId⟩ := by
    funext a
    simp [matchesQuery]
  rw [hnew, hmatches, List.filter_append]
  refine .append_right fun a ha => ?_
  obtain ⟨r, hr, hid, hrole⟩ := hall a (List.mem_filter.1 ha).1
  exact ⟨r.group, ⟨r, h.rosters ▸ hr, rfl⟩, hid, hrole⟩

lemma later_log {e : Event} {entry : LogEntry} (h : m.log clock e = (.ok entry, n)) :
    Later m n := by
  unfold log at h
  split at h
  · cases h
  · obtain ⟨-, rfl⟩ := Prod.mk.inj h
    exact ⟨rfl, rfl, rfl, [], (List.append_nil _).symm, fun _ ha => absurd ha List.not_mem_nil⟩

lemma answer_tells {q : Request} (hq : tells q = true) (clock : Reading Calendar.Moment)
    (m : Memory) : ∃ r n, m.answer clock q = (.ok r, n) ∧ Idle m n := by
  cases q with
  | notify notice => exact ⟨_, _, rfl, rfl, rfl, rfl, rfl, rfl⟩
  | withdraw types target targetId => exact ⟨_, _, rfl, rfl, rfl, rfl, rfl, rfl⟩
  | _ => exact absurd hq Bool.noConfusion

lemma group?_text (m : Memory) (id : String) :
    m.group? (.text id) = .ok ((m.roster? (.text id)).map (·.group)) := rfl

end Memory

open Memory in
/-- The store in memory. -/
def steadyMemory : Steady Memory where
  serve k q m := m.serve (.shows k) q
  Sound := Sound
  Later := Later
  Idle := Idle
  Knows := Knows
  later_refl m := (idle_refl m).later
  idle_refl := idle_refl
  later_trans := Later.trans
  idle_trans := Idle.trans
  later_of_idle := Idle.later
  sound_later hs h := h.sound hs
  knows_later := fun ⟨r, hr, hg⟩ h => ⟨r, h.rosters ▸ hr, hg⟩
  consulted {k q s t r} hq hs h := by
    rw [hs.serve_eq, answer_of_later (.shows k) (.shows k) hq (idle_refl s).later] at h
    obtain ⟨hr, rfl⟩ := Prod.mk.inj h
    refine ⟨idle_refl s, fun k' u hu => ⟨u, ?_, idle_refl u⟩⟩
    rw [(hu.sound hs).serve_eq, answer_of_later (.shows k) (.shows k') hq hu, hr]
  told {k q s t r} hq hs h := by
    obtain ⟨r', n, hanswer, hidle⟩ := answer_tells hq (.shows k) s
    rw [hs.serve_eq, hanswer] at h
    obtain ⟨-, rfl⟩ := Prod.mk.inj h
    refine ⟨hidle, fun k' u hu => ?_⟩
    rw [(hu.sound (hidle.later.sound hs)).serve_eq]
    exact answer_tells hq (.shows k') u
  logged {k e s t r} hs h := by
    rw [hs.serve_eq] at h
    exact later_log h
  knows_of_stage {k contextId stage s t gs} hs h g hg := by
    rw [hs.serve_eq] at h
    obtain ⟨hgs, rfl⟩ := Prod.mk.inj h
    rw [← Except.ok.inj hgs] at hg
    exact List.mem_map.1 (List.mem_filter.1 hg).1
  knows_of_user {k userId contextId s t gs} hs h g hg := by
    rw [hs.serve_eq] at h
    obtain ⟨hgs, rfl⟩ := Prod.mk.inj h
    rw [← Except.ok.inj hgs] at hg
    obtain ⟨r, hr, hgroup⟩ := List.mem_map.1 hg
    exact ⟨r, (List.mem_filter.1 hr).1, hgroup⟩
  known {k g s} hs hg := by
    obtain ⟨r, hr, rfl⟩ := hg
    refine ⟨r.group, s, ?_, rfl, idle_refl s⟩
    rw [hs.serve_eq, answer, group?_text, hs.roster?_eq hr]
    rfl
  group_id {k id g s t} hs h := by
    rw [hs.serve_eq, answer, group?_text] at h
    obtain ⟨hg, rfl⟩ := Prod.mk.inj h
    obtain ⟨r, hr, rfl⟩ := Option.map_eq_some_iff.1 (Except.ok.inj hg)
    have hbeq := List.find?_some hr
    exact (Value.text.inj (beq_iff_eq.1 hbeq)).symm
  enrolled {k e s t r} hs h hgroup := by
    rw [hs.serve_eq] at h
    have hlater : Later s t := later_enroll h hgroup
    refine ⟨hlater, fun k' u hu => ⟨{ u with attempts := u.attempts ++ [e] }, ?_, ?_⟩⟩
    · rw [(hu.sound (hlater.sound hs)).serve_eq]
      exact enroll_taken (hu.taken (taken_of_enroll h)) _
    · exact ⟨rfl, rfl, rfl, rfl, rfl⟩
  listed {k id userId s t found} hs h := by
    rw [hs.serve_eq] at h
    obtain ⟨hfound, rfl⟩ := Prod.mk.inj h
    refine ⟨idle_refl s, fun k' u hu => ⟨_, u, (hu.sound hs).serve_eq _ _, idle_refl u, ?_⟩⟩
    rw [← Except.ok.inj hfound]
    exact padded_assignments hu
  seated {k k' id userId s t u v found a flag r} hs h ha hu h' := by
    rw [hs.serve_eq] at h
    obtain ⟨hfound, rfl⟩ := Prod.mk.inj h
    rw [← Except.ok.inj hfound] at ha
    obtain ⟨hmem, hmatch⟩ := List.mem_filter.1 ha
    have hid : Value.text id = .text a.seat.submissionId := by
      simp only [matchesQuery, Bool.and_eq_true, beq_iff_eq] at hmatch
      exact hmatch.1.1.1
    have htaken : s.assignments.any
        (Enrollment.isFor ⟨.text id, .text a.seat.groupId, .text a.seat.userId, flag⟩ ·.seat) =
          true :=
      List.any_eq_true.2 ⟨a, hmem, by simp [Enrollment.isFor, hid]⟩
    rw [(hu.sound hs).serve_eq, answer, enroll_taken (hu.taken htaken)] at h'
    exact (Except.ok.inj (Prod.mk.inj h').1).symm

end Store
end EditorialDesk
