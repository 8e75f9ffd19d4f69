import EditorialDesk.Calendar.Moment
import EditorialDesk.Number.Binary64
import EditorialDesk.Text.Whole

/-!
# Reading moments

A moment is given as a date with a time and an offset, as a date alone, or as a
count of seconds or milliseconds since the start of 1970. Nothing may stand in
front of it or behind it.
-/
namespace EditorialDesk.Calendar

/-!
## Counts from the start of 1970

A moment can be given as the seconds or the milliseconds from the start of 1970 in
UTC. A whole count is exact. A count with a fraction is a double: its whole part is
taken towards the past, and the microseconds of the rest are computed in doubles.
-/

inductive UnixCount where
  | whole (n : Int)
  | double (x : Binary64)
deriving DecidableEq, Repr

/-- The greatest magnitude at which a count is of seconds; beyond, it is of milliseconds. -/
abbrev mostSeconds : Nat := 20000000000

/-- The start of 1970 in UTC. -/
def unixEpoch : Instant := Civil.index ⟨1970, 1, 1⟩ * dayTicks

/-- The whole number nearest to `scale` times a fraction, a half upwards. The product is rounded to
a double first. -/
def scaled? (scale num den : Nat) : Option Nat := do
  let (n, d) ← Binary64.rounded? (scale * num) den
  return (2 * n + d) / (2 * d)

namespace UnixCount

/-- The microseconds that a double counts. -/
def ticksOfDouble? (x : Binary64) : Option Int := do
  let (n, d) ← x.fraction?
  let unit := if mostSeconds * d < n then 1000 else 1000000
  let num := Text.signed x.isNegative n
  let (rest, den) ← Binary64.rounded? (num % d).toNat d
  return num / d * unit + (← scaled? unit rest den)

/-- The instant that a count stands for; a count that is not finite has none. -/
def instant? : UnixCount → Option Instant
  | whole n => some (unixEpoch + n * if mostSeconds < n.natAbs then 1000 else 1000000)
  | double x => (ticksOfDouble? x).map (unixEpoch + ·)

/-- The moment in UTC that a count stands for, if it is in years 1 to 9999. -/
def moment? (count : UnixCount) : Option Moment := count.instant?.bind (Moment.at? .utc)

/-- Whether a count stands for an instant of the year before year 1, which has 366 days. -/
def isYearZero (count : UnixCount) : Bool :=
  match count.instant? with
  | some i => -366 * dayTicks ≤ i && i < 0
  | none => false

/-- The power of ten of an exponent, zero if nothing is there. -/
def exponent? : List Char → Option Int
  | [] => some 0
  | mark :: rest =>
    let (negative, body) := Text.splitSign rest
    match Text.plainRun body with
    | (digits, []) =>
      if (mark == 'e' || mark == 'E') && !digits.isEmpty then
        some (Text.signed negative (Text.plainValue digits))
      else none
    | _ => none

/-- The count written as a sign and digits. With a point it is a double; then the digits may be
missing on one side of the point, and a power of ten may stand at the end. -/
def ofChars? (cs : List Char) : Option UnixCount :=
  let (negative, body) := Text.splitSign cs
  let (digits, rest) := Text.plainRun body
  match rest with
  | [] =>
    if digits.isEmpty then none
    else some (whole (Text.signed negative (Text.plainValue digits)))
  | '.' :: rest =>
    let (tail, rest) := Text.plainRun rest
    if digits.isEmpty && tail.isEmpty then none
    else do
      let power ← exponent? rest
      return double (.ofDecimal negative (Text.plainValue (digits ++ tail)) (power - tail.length))
  | _ => none

end UnixCount

/-! ## Reading moments -/

/-- Two digits. -/
def readTwo? : List Char → Option (Nat × List Char)
  | a :: b :: rest => do
    let x ← Text.plainDigit? a
    let y ← Text.plainDigit? b
    return (10 * x + y, rest)
  | _ => none

/-- A date of the form `YYYY-MM-DD` that its year has; year zero is let through. -/
def readCivil? (cs : List Char) : Option (Civil × List Char) := do
  let (century, rest) ← readTwo? cs
  let (years, rest) ← readTwo? rest
  match rest with
  | '-' :: rest =>
    let (month, rest) ← readTwo? rest
    match rest with
    | '-' :: rest =>
      let (day, rest) ← readTwo? rest
      let c : Civil := ⟨100 * century + years, month, day⟩
      if c.isReal then return (c, rest) else none
    | _ => none
  | _ => none

/-- The microseconds that the digits behind a point stand for; those after the sixth are dropped. -/
def microsOf (digits : List Char) : Nat :=
  Text.plainValue ((digits ++ List.replicate 6 '0').take 6)

/-- The fraction of a second, after a point or a comma, if there is one. -/
def readMicros? : List Char → Option (Nat × List Char)
  | c :: rest =>
    if c == '.' || c == ',' then
      let (digits, rest) := Text.plainRun rest
      if digits.isEmpty then none else some (microsOf digits, rest)
    else some (0, c :: rest)
  | [] => some (0, [])

/-- The microseconds of the day at a time `HH:MM`, with or without seconds and their fraction. -/
def readTime? (cs : List Char) : Option (Nat × List Char) := do
  let (hour, rest) ← readTwo? cs
  match rest with
  | ':' :: rest =>
    let (minute, rest) ← readTwo? rest
    if 23 < hour || 59 < minute then none
    else
      let whole := (60 * hour + minute) * minuteTicks
      match rest with
      | ':' :: rest =>
        let (second, rest) ← readTwo? rest
        if 59 < second then none
        else
          let (micros, rest) ← readMicros? rest
          return (whole + second * secondTicks + micros, rest)
      | _ => return (whole, rest)
  | _ => none

/-- Hours and minutes of an offset, with or without a colon between them. -/
def readOffsetMinutes? (cs : List Char) : Option Nat := do
  let (hours, rest) ← readTwo? cs
  let rest := match rest with
    | ':' :: more => more
    | _ => rest
  let (minutes, rest) ← readTwo? rest
  if rest.isEmpty && hours ≤ 23 && minutes ≤ 59 then return 60 * hours + minutes else none

/-- Nothing, the letter for UTC, or a signed offset; a proper minus sign is as good as a hyphen. -/
def readOffset? : List Char → Option (Option Offset)
  | [] => some none
  | c :: rest =>
    if c == 'Z' || c == 'z' then if rest.isEmpty then some (some .utc) else none
    else if c == '+' then do
      let minutes ← readOffsetMinutes? rest
      return some (← Offset.ofTicks? (minutes * minuteTicks))
    else if c == '-' || c == '−' then do
      let minutes ← readOffsetMinutes? rest
      return some (← Offset.ofTicks? (-(minutes * minuteTicks : Nat)))
    else none

/-- A date with a time and an offset as written. A date alone is its midnight, without an offset. -/
def readDated? (cs : List Char) : Option (Civil × Nat × Option Offset) := do
  let (c, rest) ← readCivil? cs
  match rest with
  | [] => return (c, 0, none)
  | mark :: rest =>
    if mark == 'T' || mark == 't' || mark == '_' || mark == ' ' then
      let (ticks, rest) ← readTime? rest
      let offset ← readOffset? rest
      return (c, ticks, offset)
    else none

/-- The moment of a day and a time of day, if it is in years 1 to 9999. -/
def Moment.ofDay? (d : Date) (timeOfDay : Nat) (offset : Option Offset) : Option Moment :=
  (clock? (d.index.val * dayTicks + timeOfDay)).map (⟨·, offset⟩)

/-- What reading a moment from text can end with. -/
inductive MomentText where
  | moment (m : Moment)
  | yearZero
  | malformed
deriving DecidableEq, Repr

/-- Reads a moment from text: a date comes first, a count second. -/
def readMoment (s : String) : MomentText :=
  match readDated? s.toList with
  | some (c, ticks, offset) =>
    match (Date.ofCivil? c).bind (Moment.ofDay? · ticks offset) with
    | some m => .moment m
    | none => .yearZero
  | none =>
    match UnixCount.ofChars? s.toList with
    | some count =>
      match count.moment? with
      | some m => .moment m
      | none => if count.isYearZero then .yearZero else .malformed
    | none => .malformed

end EditorialDesk.Calendar
