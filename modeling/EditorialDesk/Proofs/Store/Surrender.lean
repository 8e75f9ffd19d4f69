import EditorialDesk.Proofs.Database.Outage
import EditorialDesk.Store.Register

/-!
# Faults that the store passes on

The store deals with two faults itself, a seat that is taken and a user who does not
exist. To every other fault its sessions surrender, and so does every plan.
-/
namespace EditorialDesk

/-- A fault that is not taken for a violated uniqueness, and not for a user who does not exist. -/
def CallFault.IsOutage (f : CallFault) : Prop :=
  ∀ e, f = .rejected e → e.isUniqueViolation = false ∧ e.isOrphanUser = false

namespace Store

open Session

variable {f : CallFault}

lemma surrenders_grants (f : CallFault) (groupIds : List String) :
    Surrenders f (grants groupIds) := by
  unfold grants
  split
  · trivial
  · exact (surrenders_lookup f _ _ _).bind fun _ => trivial

lemma surrenders_groupsAmong (f : CallFault) (ids : List String) (contextId : Value) :
    Surrenders f (groupsAmong ids contextId) := by
  unfold groupsAmong
  split
  · trivial
  · refine (surrenders_lookup f _ _ _).bind fun rows => ?_
    exact (surrenders_grants f _).bind fun granted => surrenders_ofExcept f _

lemma surrenders_group? (f : CallFault) (id : Value) : Surrenders f (group? id) :=
  (surrenders_ofExcept f _).bind fun _ =>
    (surrenders_groupsAmong f _ _).bind fun _ => trivial

lemma surrenders_members (f : CallFault) (groupId contextId : Value) :
    Surrenders f (members groupId contextId) := by
  refine (surrenders_group? f groupId).bind fun g => ?_
  cases g with
  | none => trivial
  | some g =>
    dsimp only
    split
    · exact (surrenders_lookup f _ _ _).bind fun _ => trivial
    · trivial

lemma surrenders_managers (f : CallFault) (contextId : Value) :
    Surrenders f (managers contextId) := by
  refine (surrenders_lookup f _ _ _).bind fun rows => ?_
  dsimp only
  split
  · trivial
  · exact (surrenders_lookup f _ _ _).bind fun _ => trivial

lemma surrenders_selectAssignments (f : CallFault) (filters : List Filter) :
    Surrenders f (selectAssignments filters) :=
  (surrenders_lookup f _ _ _).bind fun _ => surrenders_ofExcept f _

lemma surrenders_assignments (f : CallFault) (q : AssignmentQuery) :
    Surrenders f (assignments q) := by
  unfold assignments
  split
  · exact surrenders_selectAssignments f _
  · refine (surrenders_lookup f _ _ _).bind fun rows => ?_
    dsimp only
    split
    · trivial
    · exact surrenders_selectAssignments f _

lemma surrenders_enroll (hf : f.IsOutage) (now : Calendar.Moment) (e : Enrollment) :
    Surrenders f (enroll now e) := by
  refine surrenders_attempt (fun _ => surrenders_ofExcept f _) (fun g => ?_) ?_
  · cases g with
    | rejected e =>
      dsimp only
      generalize e.isUniqueViolation = taken
      cases taken <;> exact True.intro
    | _ => exact True.intro
  · have hsurfaced : (Call.insert Table.stageAssignments (assignmentRow now e)).surfaced f =
        .ofLookup f := by simp [Call.surfaced]
    rw [hsurfaced]
    cases f with
    | rejected e =>
      dsimp only
      rw [(hf e rfl).1, if_neg Bool.false_ne_true]
    | _ => rfl

lemma surrenders_notify (hf : f.IsOutage) (now : Calendar.Moment) (n : Notice) :
    Surrenders f (notify now n) := by
  refine surrenders_attempt (fun _ => surrenders_ofExcept f _) (fun g => ?_) ?_
  · cases g with
    | rejected e =>
      dsimp only
      generalize e.isOrphanUser = unknown
      cases unknown <;> exact True.intro
    | _ => exact True.intro
  · have hne : Table.notifications ≠ Table.stageAssignments := by decide
    have hsurfaced : (Call.insert Table.notifications (notificationRow now n)).surfaced f =
        .ofCall f := by simp [Call.surfaced, hne]
    rw [hsurfaced]
    cases f with
    | rejected e =>
      dsimp only
      rw [(hf e rfl).2, if_neg Bool.false_ne_true]
    | _ => rfl

lemma surrenders_withdraw (f : CallFault) (types : List NotificationType) (target : TargetType)
    (targetId : Value) : Surrenders f (withdraw types target targetId) := by
  unfold withdraw
  split
  · trivial
  · exact (surrenders_execute rfl).bind fun _ => trivial

lemma surrenders_log (f : CallFault) (now : Calendar.Moment) (e : Event) :
    Surrenders f (log now e) :=
  (surrenders_execute rfl).bind fun _ => (surrenders_execute rfl).bind fun _ =>
    surrenders_ofExcept f _

lemma surrenders_atClock {α : Type} (clock : Reading Calendar.Moment)
    {go : Calendar.Moment → Session α} (hgo : ∀ now, (go now).Surrenders f) :
    Surrenders f (atClock clock go) :=
  (surrenders_ofExcept f _).bind hgo

/-- Only an enrolment and a notification deal with faults of their own; every other request
surrenders to whatever fault. -/
lemma surrenders_plain (f : CallFault) (clock : Reading Calendar.Moment) {q : Request}
    (henroll : ∀ e, q ≠ .enroll e) (hnotify : ∀ n, q ≠ .notify n) :
    Surrenders f (session clock q) := by
  cases q with
  | groupsForStage contextId stage =>
    exact (surrenders_lookup f _ _ _).bind fun _ => surrenders_groupsAmong f _ _
  | groupsForUser userId contextId =>
    exact (surrenders_lookup f _ _ _).bind fun _ => surrenders_groupsAmong f _ _
  | group id => exact surrenders_group? f id
  | members groupId contextId => exact surrenders_members f groupId contextId
  | subEditors grouping contextId => exact (surrenders_lookup f _ _ _).bind fun _ => trivial
  | managers contextId => exact surrenders_managers f contextId
  | assignments query => exact surrenders_assignments f query
  | enroll e => exact absurd rfl (henroll e)
  | notify n => exact absurd rfl (hnotify n)
  | withdraw types target targetId => exact surrenders_withdraw f types target targetId
  | log e => exact surrenders_atClock clock fun now => surrenders_log f now e
  | save x => exact (surrenders_execute rfl).bind fun _ => trivial

/-- Every request surrenders to an outage. -/
theorem surrenders_session (hf : f.IsOutage) (clock : Reading Calendar.Moment) (q : Request) :
    Surrenders f (session clock q) := by
  cases q with
  | enroll e => exact surrenders_atClock clock fun now => surrenders_enroll hf now e
  | notify n => exact surrenders_atClock clock fun now => surrenders_notify hf now n
  | _ => exact surrenders_plain f clock nofun nofun

theorem surrenders_sessionOf {α : Type} (hf : f.IsOutage) (clock : Reading Calendar.Moment)
    (plan : Plan α) : Surrenders f (sessionOf clock plan) :=
  surrenders_via (surrenders_session hf clock) plan

end Store
end EditorialDesk
