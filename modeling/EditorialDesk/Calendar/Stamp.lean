import EditorialDesk.Calendar.Reader

/-!
# Stamps

A day is named and a clock is set by a stamp in a form of ISO 8601. The date is given by
month or by week, the time down to the hour, the minute, the second or a fraction of it,
each with or without separators, and an offset behind the time has the form of a time.
-/
namespace EditorialDesk.Calendar

/-- The first Monday of the year's weeks: that of the week with the fourth of January. The first day
of all is a Monday. -/
def firstMonday (year : Nat) : Nat :=
  let fourth := Civil.index ⟨year, 1, 4⟩
  fourth - fourth % 7

/-- A day of a week of the year. The last week is the one with the last Thursday. -/
def Date.ofWeek? (year week day : Nat) : Option Date :=
  let monday := firstMonday year + 7 * (week - 1)
  let index := monday + (day - 1)
  if year != 0 && week != 0 && monday + 3 < daysBeforeYear (year + 1) && 1 ≤ day && day ≤ 7 then
    if h : index < dayCount then some ⟨⟨index, h⟩⟩ else none
  else none

/-- Drops a hyphen, which has to be there if the parts of a date are separated. -/
def dropMark? : (separated : Bool) → List Char → Option (List Char)
  | true, '-' :: rest => some rest
  | true, _ => none
  | false, rest => some rest

/-- The day of a week by its number. Where the date ends with the week it is the first. -/
def readWeekday? (separated : Bool) : List Char → Option Nat
  | [] => some 1
  | cs => do
    match ← dropMark? separated cs with
    | [] => none
    | c :: _ => Text.plainDigit? c

/-- The date at the start of a text, whatever stands behind it. -/
def readStampDate? (cs : List Char) : Option Date := do
  let (century, rest) ← readTwo? cs
  let (years, rest) ← readTwo? rest
  let year := 100 * century + years
  let (separated, rest) := match rest with
    | '-' :: rest => (true, rest)
    | _ => (false, rest)
  match rest with
  | 'W' :: rest =>
    let (week, rest) ← readTwo? rest
    Date.ofWeek? year week (← readWeekday? separated rest)
  | _ =>
    let (month, rest) ← readTwo? rest
    let (day, _) ← readTwo? (← dropMark? separated rest)
    Date.ofCivil? ⟨year, month, day⟩

/-- How many characters behind a week are its day. Between hyphens it is one digit, and with two
the hyphen belongs to the time. Without hyphens the time is written in pairs of digits behind a
separator of any kind, so that of an even number of digits the first is the day. -/
def weekdayLength (separated : Bool) (cs : List Char) : Nat :=
  match separated, cs with
  | true, '-' :: _ :: c :: _ => if (Text.plainDigit? c).isSome then 0 else 2
  | true, '-' :: _ => 2
  | true, _ => 0
  | false, cs =>
    let run := (Text.plainRun cs).1.length
    if run == 1 || (run != 0 && run % 2 == 0) then 1 else 0

/-- How many characters at the start of a stamp are its date. -/
def stampDateLength (cs : List Char) : Nat :=
  match cs.drop 4 with
  | '-' :: 'W' :: rest => 8 + weekdayLength true (rest.drop 2)
  | '-' :: _ => 10
  | 'W' :: rest => 7 + weekdayLength false (rest.drop 2)
  | _ => 8

/-- Whether a text ends here. The null character ends it as well, whatever stands behind it. -/
def isOver (cs : List Char) : Bool := cs.head?.all (· == '\x00')

/-- The fraction of a second that digits write. Nothing may stand behind fewer than six; behind more
the text has to be over, or in front of an offset anything may stand. -/
def readFraction? (offset : Bool) (cs : List Char) : Option Nat :=
  let (digits, rest) := Text.plainRun cs
  if digits.isEmpty then none
  else if rest.isEmpty || (6 ≤ digits.length && (offset || isOver rest)) then
    some (microsOf digits)
  else none

/-- Reads a number of two digits and up to `more` others, all or none of them behind colons, and a
fraction behind the last. Where no other number can follow, the point in front of the fraction may
be a colon as well or missing. A single character that is left is skipped in front of an offset, and
a null character anywhere. -/
def readParts? (colons offset : Bool) (more : Nat) (cs : List Char) : Option (List Nat × Nat) := do
  let (n, rest) ← readTwo? cs
  match rest with
  | [] => return ([n], 0)
  | mark :: tail =>
    if tail.isEmpty then
      if mark == '\x00' || (offset && mark.toNat < 128) then return ([n], 0) else none
    else if mark == '.' || mark == ',' then return ([n], ← readFraction? offset tail)
    else if colons && mark != ':' then none
    else
      let rest := if colons then tail else rest
      match more with
      | 0 => return ([n], ← readFraction? offset rest)
      | more + 1 =>
        let (parts, micros) ← readParts? colons offset more rest
        return (n :: parts, micros)

/-- Hours, minutes and seconds and the microseconds of a time. -/
def readStampTime? (offset : Bool) (cs : List Char) : Option (List Nat × Nat) :=
  readParts? ((cs.drop 2).head? == some ':') offset 2 cs

/-- The microseconds that hours, minutes and seconds make; what is missing counts as none. -/
def ticksOf (parts : List Nat) (micros : Nat) : Nat :=
  (3600 * parts.getD 0 0 + 60 * parts.getD 1 0 + parts.getD 2 0) * secondTicks + micros

/-- An offset as a stamp writes it; one without whole seconds is that of UTC. -/
def readStampOffset? : List Char → Option (Option Offset)
  | [] => some none
  | 'Z' :: rest => if isOver rest then some (some .utc) else none
  | sign :: rest => do
    let (parts, micros) ← readStampTime? false rest
    let ticks := if ticksOf parts 0 == 0 then 0 else ticksOf parts micros
    return some (← Offset.ofTicks? (Text.signed (sign == '-') ticks))

/-- The moment of a stamp. A date alone is its midnight, and any character may stand between the
date and the time. -/
def Moment.ofStamp? (s : String) : Option Moment := do
  let length := stampDateLength s.toList
  let d ← readStampDate? (s.toList.take length)
  match s.toList.drop length with
  | [] => Moment.ofDay? d 0 none
  | _ :: rest =>
    let isTime (c : Char) : Bool := c != '+' && c != '-' && c != 'Z'
    let behind := rest.dropWhile isTime
    let (parts, micros) ← readStampTime? (!behind.isEmpty) (rest.takeWhile isTime)
    let offset ← readStampOffset? behind
    if 23 < parts.getD 0 0 || 59 < parts.getD 1 0 || 59 < parts.getD 2 0 then none
    else Moment.ofDay? d (ticksOf parts micros) offset

/-- The date of a stamp that has the size of a date alone; a shorter form of date may be filled up
to that size. -/
def Date.ofStamp? (s : String) : Option Date :=
  if [7, 8, 10].contains s.utf8ByteSize then readStampDate? s.toList else none

end EditorialDesk.Calendar
