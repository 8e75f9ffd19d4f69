/-!
# Dates, moments and instants

A moment is a wall-clock reading to the microsecond, with or without an offset from
UTC. With one it fixes an instant, which is counted in microseconds from the start
of year 1 in UTC. Readings stay in years 1 to 9999; instants are any integers, so
that a conversion which leaves those years can be told.
-/
namespace EditorialDesk

/-!
## Decimal digits

Whole numbers written in decimal, as they are or with a fixed number of digits.
-/

/-- The last `width` decimal digits of `n`. -/
def padded : (width n : Nat) → List Char
  | 0, _ => []
  | width + 1, n => padded width (n / 10) ++ [Nat.digitChar (n % 10)]

@[simp] theorem length_padded (width n : Nat) : (padded width n).length = width := by
  induction width generalizing n with
  | zero => rfl
  | succ width ih => simp [padded, ih]

end EditorialDesk

/-!
## Calendar dates

A date of the proleptic Gregorian calendar, years 1 to 9999, is held as the number
of days since the first of January of year 1. Dates are thus compared as numbers,
and every date exists in the calendar. Year, month and day are computed from it.
-/
namespace EditorialDesk.Calendar

/-- Year, month and day as written, whether or not the calendar has such a date. -/
structure Civil where
  year : Nat
  month : Nat
  day : Nat
deriving DecidableEq, Repr

def isLeap (year : Nat) : Bool := year % 4 == 0 && (year % 100 != 0 || year % 400 == 0)

/-- Days of the months in front of this one, in a year of the given length. -/
def daysBeforeMonth (leap : Bool) (month : Nat) : Nat :=
  [0, 0, 31, 59, 90, 120, 151, 181, 212, 243, 273, 304, 334, 365].getD month 0 +
    if leap && 2 < month then 1 else 0

def daysInMonth (leap : Bool) (month : Nat) : Nat :=
  daysBeforeMonth leap (month + 1) - daysBeforeMonth leap month

/-- Days from the start of year 1 to the start of the year. -/
def daysBeforeYear (year : Nat) : Nat :=
  let past := year - 1
  365 * past + past / 4 + past / 400 - past / 100

namespace Civil

/-- Whether the calendar has the month and the day; any year will do, zero included. -/
def isReal (c : Civil) : Bool :=
  1 ≤ c.month && c.month ≤ 12 && 1 ≤ c.day && c.day ≤ daysInMonth (isLeap c.year) c.month

/-- Days since the first of January of year 1. -/
def index (c : Civil) : Nat :=
  daysBeforeYear c.year + daysBeforeMonth (isLeap c.year) c.month + (c.day - 1)

def chars (c : Civil) : List Char :=
  padded 4 c.year ++ '-' :: padded 2 c.month ++ '-' :: padded 2 c.day

end Civil

/-- The days from year 1 to the end of year 9999. -/
def dayCount : Nat := 3652059

/-- A date of the calendar. -/
structure Date where
  index : Fin dayCount
deriving DecidableEq, Repr

namespace Date

instance : LT Date := ⟨fun a b => a.index < b.index⟩
instance : LE Date := ⟨fun a b => a.index ≤ b.index⟩
instance (a b : Date) : Decidable (a < b) := inferInstanceAs (Decidable (a.index < b.index))
instance (a b : Date) : Decidable (a ≤ b) := inferInstanceAs (Decidable (a.index ≤ b.index))

/-- The date written as year, month and day, if it is in the calendar. -/
def ofCivil? (c : Civil) : Option Date :=
  if c.year != 0 && c.isReal then
    if h : c.index < dayCount then some ⟨⟨c.index, h⟩⟩ else none
  else none

/-- The year that contains the day `n` of the calendar and the days of it that are over, by cycles
of 400, 100, 4 and 1 years. -/
def yearOf (n : Nat) : Nat × Nat :=
  let r := n % 146097
  let centuries := min (r / 36524) 3
  let r := r - 36524 * centuries
  let r' := r % 1461
  let years := min (r' / 365) 3
  (400 * (n / 146097) + 100 * centuries + 4 * (r / 1461) + years + 1, r' - 365 * years)

/-- The month that contains the day of the year, days counted from zero. -/
def monthOf (leap : Bool) (dayOfYear : Nat) : Nat :=
  ((List.range 12).filter fun m => daysBeforeMonth leap (m + 1) ≤ dayOfYear).length

def civil (d : Date) : Civil :=
  let (year, dayOfYear) := yearOf d.index
  let month := monthOf (isLeap year) dayOfYear
  ⟨year, month, dayOfYear - daysBeforeMonth (isLeap year) month + 1⟩

/-- The date in the form `YYYY-MM-DD`. -/
def text (d : Date) : String := String.ofList d.civil.chars

end Date

/-! ## Moments and instants -/

/-- Microseconds in a second, in a minute and in a day. -/
abbrev secondTicks : Nat := 1000000
abbrev minuteTicks : Nat := 60000000
abbrev dayTicks : Nat := 86400000000

/-- The readings of a clock from year 1 to the end of year 9999. -/
abbrev clockSpan : Nat := dayCount * dayTicks

/-- A point and six digits, nothing for no microseconds. -/
def fractionChars (micros : Nat) : List Char := if micros == 0 then [] else '.' :: padded 6 micros

/-- Microseconds to the east of UTC, less than a day. -/
structure Offset where
  ticks : Int
  bounded : -(dayTicks : Int) < ticks ∧ ticks < dayTicks
deriving DecidableEq, Repr

namespace Offset

def utc : Offset := ⟨0, by decide⟩

/-- The offset of so many microseconds, if it is less than a day. -/
def ofTicks? (ticks : Int) : Option Offset :=
  if h : -(dayTicks : Int) < ticks ∧ ticks < dayTicks then some ⟨ticks, h⟩ else none

/-- The sign of an offset and the hours and minutes of its magnitude. -/
def minuteChars (negative : Bool) (magnitude : Nat) : List Char :=
  let minutes := magnitude / minuteTicks
  (if negative then '-' else '+') :: padded 2 (minutes / 60) ++ ':' :: padded 2 (minutes % 60)

/-- Records round an offset to seconds, a half away from zero, and show its minutes. UTC is `Z`. -/
def recordChars (o : Offset) : List Char :=
  let seconds := (2 * o.ticks.natAbs + secondTicks) / (2 * secondTicks)
  if seconds == 0 then ['Z'] else minuteChars (o.ticks < 0) (seconds * secondTicks)

/-- Columns hold the whole offset, its seconds and their fraction where they are not zero. -/
def columnChars (o : Offset) : List Char :=
  let inMinute := o.ticks.natAbs % minuteTicks
  minuteChars (o.ticks < 0) o.ticks.natAbs ++
    if inMinute == 0 then []
    else ':' :: padded 2 (inMinute / secondTicks) ++ fractionChars (inMinute % secondTicks)

end Offset

/-- Microseconds from the start of year 1 in UTC. -/
abbrev Instant := Int

/-- A reading of a clock: microseconds from the start of year 1, the clock's own offset if known. -/
structure Moment where
  ticks : Fin clockSpan
  offset : Option Offset
deriving DecidableEq, Repr

/-- The reading of so many microseconds, if it is in years 1 to 9999. -/
def clock? (ticks : Int) : Option (Fin clockSpan) :=
  if h : 0 ≤ ticks ∧ ticks < clockSpan then some ⟨ticks.toNat, by omega⟩ else none

namespace Moment

/-- The calendar date that the clock shows. -/
def date (m : Moment) : Date :=
  ⟨m.ticks.val / dayTicks, Nat.div_lt_of_lt_mul (Nat.mul_comm dayCount dayTicks ▸ m.ticks.isLt)⟩

/-- The instant at which a clock of known offset shows the moment. -/
def instant? (m : Moment) : Option Instant :=
  m.offset.map fun o => (m.ticks.val : Int) - o.ticks

/-- What a clock of a known offset shows at an instant. -/
def at? (o : Offset) (i : Instant) : Option Moment :=
  (clock? (i + o.ticks)).map fun ticks => ⟨ticks, some o⟩

/-- Hours, minutes and seconds, and the microseconds unless they are zero. -/
def clockChars (m : Moment) : List Char :=
  let seconds := m.ticks.val % dayTicks / secondTicks
  padded 2 (seconds / 3600) ++ ':' :: padded 2 (seconds / 60 % 60) ++ ':' ::
    padded 2 (seconds % 60) ++ fractionChars (m.ticks.val % secondTicks)

/-- Date and time with the offset behind them, if there is one. -/
def chars (offsetChars : Offset → List Char) (m : Moment) : List Char :=
  m.date.civil.chars ++ 'T' :: m.clockChars ++
    match m.offset with
    | none => []
    | some o => offsetChars o

/-- The form in which records show a moment. -/
def recordText (m : Moment) : String := String.ofList (m.chars Offset.recordChars)

/-- The form in which moments are stored in columns. -/
def columnText (m : Moment) : String := String.ofList (m.chars Offset.columnChars)

end Moment

/-- What stands in a date field: a moment, or a bare date of the calendar. -/
inductive Dated where
  | moment (m : Moment)
  | day (d : Date)
deriving DecidableEq, Repr

/-- The date as written, whatever the zone. -/
def Dated.date : Dated → Date
  | .moment m => m.date
  | .day d => d

end EditorialDesk.Calendar
