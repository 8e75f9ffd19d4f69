import EditorialDesk.Calendar.Zone
import EditorialDesk.Proofs.Calendar.Column

/-!
# Dates in a zone

The date that a field of a record has in a zone is described by what a clock in the zone
shows: a moment with an offset falls on the day within which the clock stands at its
instant, all else falls on its own date. This is what the conversion computes, as long as
it stays within the calendar.
-/
namespace EditorialDesk.Calendar

namespace Zone

variable {z : Zone} {i : Instant} {d : Date}

/-- What a clock in the zone shows at an instant, counted as instants are. -/
def localTicks (z : Zone) (i : Instant) : Int := i + z.offsetAt i

/-- At the instant the clock in the zone stands within the day. -/
def Shows (z : Zone) (i : Instant) (d : Date) : Prop :=
  (d.index.val * dayTicks : Int) ≤ z.localTicks i ∧
    z.localTicks i < (d.index.val + 1) * dayTicks

/-- The date on which a field of a record falls in the zone. -/
inductive FallsOn (z : Zone) : Dated → Date → Prop
  | converted {m : Moment} {i : Instant} {d : Date} (hm : m.instant? = some i)
      (hd : z.Shows i d) : FallsOn z (.moment m) d
  | unzoned {m : Moment} (hm : m.instant? = none) : FallsOn z (.moment m) m.date
  | day (d : Date) : FallsOn z (.day d) d

lemma Shows.index_eq (h : z.Shows i d) : (d.index.val : Int) = z.localTicks i / dayTicks := by
  obtain ⟨hlow, hhigh⟩ := h
  unfold dayTicks at *
  omega

lemma Shows.unique {other : Date} (h : z.Shows i d) (h' : z.Shows i other) : other = d := by
  have hindex := h'.index_eq.trans h.index_eq.symm
  cases d
  cases other
  exact congrArg Date.mk (Fin.ext (Int.ofNat_inj.1 hindex))

lemma FallsOn.unique {f : Dated} {other : Date} (h : z.FallsOn f d) (h' : z.FallsOn f other) :
    other = d := by
  cases h with
  | converted hm hd =>
    cases h' with
    | converted hm' hd' =>
      obtain rfl := Option.some.inj (hm.symm.trans hm')
      exact hd.unique hd'
    | unzoned hm' => cases hm.symm.trans hm'
  | unzoned hm =>
    cases h' with
    | converted hm' hd' => cases hm.symm.trans hm'
    | unzoned => rfl
  | day =>
    cases h'
    rfl

lemma clock?_eq_some {ticks : Int} {t : Fin clockSpan} : clock? ticks = some t ↔ ticks = t.val := by
  refine ⟨fun h => ?_, fun h => h ▸ clock?_val t⟩
  unfold clock? at h
  split at h
  · next hticks =>
    obtain rfl := Option.some.inj h
    exact (Int.toNat_of_nonneg hticks.1).symm
  · cases h

lemma shows_date {ticks : Fin clockSpan} (h : z.localTicks i = ticks.val) :
    z.Shows i (Moment.date ⟨ticks, none⟩) := by
  have hdate : (Moment.date ⟨ticks, none⟩).index.val = ticks.val / dayTicks := rfl
  unfold Shows
  rw [hdate, h]
  unfold dayTicks
  omega

/-- A reading of a clock for everything that is in the calendar. -/
lemma exists_clock {ticks : Int} (h : 0 ≤ ticks ∧ ticks < clockSpan) :
    ∃ t : Fin clockSpan, ticks = t.val :=
  ⟨⟨ticks.toNat, by omega⟩, (Int.toNat_of_nonneg h.1).symm⟩

/-- An instant is converted to the day within which the clock stands, unless the instant itself is
not in the calendar. -/
lemma dateAt?_eq_some : z.dateAt? i = some d ↔ (0 ≤ i ∧ i < clockSpan) ∧ z.Shows i d := by
  unfold dateAt?
  simp only [Option.bind_eq_bind, Option.bind_eq_some_iff, clock?_eq_some, pure, Option.some.injEq]
  constructor
  · rintro ⟨utc, rfl, ticks, hticks, rfl⟩
    exact ⟨⟨Int.natCast_nonneg _, Int.ofNat_lt.2 utc.isLt⟩, shows_date hticks⟩
  · rintro ⟨hi, hlow, hhigh⟩
    have hlocal : 0 ≤ z.localTicks i ∧ z.localTicks i < clockSpan := by
      have hday := d.index.isLt
      unfold clockSpan dayTicks dayCount at *
      omega
    obtain ⟨utc, hutc⟩ := exists_clock hi
    obtain ⟨ticks, hticks⟩ := exists_clock hlocal
    refine ⟨utc, hutc, ticks, hutc ▸ hticks, ?_⟩
    exact Shows.unique ⟨hlow, hhigh⟩ (shows_date hticks)

lemma fallsOn_of_dateOf? {f : Dated} (h : z.dateOf? f = some d) : z.FallsOn f d := by
  cases f with
  | moment m =>
    unfold dateOf? at h
    dsimp only at h
    split at h
    · next i hi => exact .converted hi (dateAt?_eq_some.1 h).2
    · next hi =>
      obtain rfl := Option.some.inj h
      exact .unzoned hi
  | day d =>
    obtain rfl := Option.some.inj h
    exact .day d

end Zone
end EditorialDesk.Calendar
