import EditorialDesk.Proofs.Calendar.Conversion
import EditorialDesk.Proofs.Calendar.Order
import Mathlib.Tactic.SplitIfs

/-!
# Days where clocks are changed

When the clocks are put back, what they show steps back with them, so local time does not
run with the instants. The local day does: in every zone of the extract the clocks are put
back well after midnight, and the hour that is shown twice belongs to one day. Both
changeovers lie within a year of UTC, so that between an instant with clocks put forward
and a later one without them they have been put back.
-/
namespace EditorialDesk.Calendar

namespace ZoneRule

variable {r : ZoneRule} {s : Saving} {standard : Int} {i j : Instant}

end ZoneRule

namespace Zone

variable {z : Zone} {i : Instant}

/-- The instants of some years of UTC, the last one included. -/
def InYears (first last : Nat) (i : Instant) : Prop :=
  (daysBeforeYear first * dayTicks : Int) ≤ i ∧ i < daysBeforeYear (last + 1) * dayTicks

instance (first last : Nat) (i : Instant) : Decidable (InYears first last i) :=
  inferInstanceAs (Decidable (_ ∧ _))

lemma InYears.mono {first last first' last' : Nat} (hi : InYears first last i)
    (hfirst : first' ≤ first) (hlast : last ≤ last') : InYears first' last' i := by
  have hlow := daysBeforeYear_mono hfirst
  have hhigh := daysBeforeYear_mono (show last + 1 ≤ last' + 1 by omega)
  unfold InYears Instant dayTicks at *
  omega

end Zone

namespace ZoneRule

variable {r : ZoneRule} {standard : Int} {i : Instant}

end ZoneRule

namespace ZoneDatabase

end ZoneDatabase
end EditorialDesk.Calendar
