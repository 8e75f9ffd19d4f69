import EditorialDesk.Calendar.Moment

/-!
# Time zones

A zone says at every instant how far its clocks are ahead of UTC. Zones are looked up by their
names in a database that is not part of the program. An extract from it is given here by
rules: a standard offset and, in some zones, a saving between two Sundays of the year. Both
changeovers lie well inside the calendar year of UTC, so the year of an instant tells which
two of them decide.

Names read like paths: a place behind the regions that lead to it, with slashes between them.
A name that is not known is no fault. One that leads to a region is, since something is
found that is no zone, and so are a place that is looked for where no places are and a
place whose name is too long to look for.
-/
namespace EditorialDesk.Calendar

/-- A zone: its name, and by how many ticks its clocks are ahead of UTC at an instant. -/
structure Zone where
  name : String
  offsetAt : Instant → Int

namespace Zone

/-- The date in the zone at an instant. Neither the instant in UTC nor the zone's reading may leave
years 1 to 9999. -/
def dateAt? (z : Zone) (i : Instant) : Option Date := do
  let utc ← clock? i
  let ticks ← clock? (i + z.offsetAt utc.val)
  return Moment.date ⟨ticks, none⟩

/-- The date of a field in the zone: a moment with an offset is converted, all else is as it is. -/
def dateOf? (z : Zone) : Dated → Option Date
  | .moment m =>
    match m.instant? with
    | some i => z.dateAt? i
    | none => some m.date
  | .day d => some d

end Zone

/-! ## Zones by their rules -/

/-- Which Sunday of a month. -/
inductive Sunday where
  | first
  | second
  | last
deriving DecidableEq, Repr

/-- The index of that Sunday among the days of the calendar. The first day of all is a Monday. -/
def Sunday.index (year month : Nat) : Sunday → Nat
  | .first => let start := Civil.index ⟨year, month, 1⟩; start + (6 - start % 7)
  | .second => let start := Civil.index ⟨year, month, 1⟩; start + (6 - start % 7) + 7
  | .last =>
    let final := Civil.index ⟨year, month, daysInMonth (isLeap year) month⟩
    final - (final + 1) % 7

/-- The clock by which a changeover's time is read. -/
inductive Clock where
  | utc
  | standard
  | daylight
deriving DecidableEq, Repr

/-- A yearly change of the clocks. -/
structure Changeover where
  month : Nat
  sunday : Sunday
  minuteOfDay : Nat
  clock : Clock
deriving DecidableEq, Repr

/-- The part of the year with clocks put forward, by so many minutes. -/
structure Saving where
  minutes : Int
  starts : Changeover
  ends : Changeover
deriving DecidableEq, Repr

/-- The rule of a zone: its standard offset in minutes, with the saving if there is one. -/
structure ZoneRule where
  name : String
  standard : Int
  saving : Option Saving
deriving DecidableEq, Repr

namespace ZoneRule

def utc : ZoneRule := ⟨"UTC", 0, none⟩

/-- The instant of a changeover. -/
def instantOf (standard saved : Int) (year : Nat) (c : Changeover) : Instant :=
  let offset := match c.clock with
    | .utc => 0
    | .standard => standard
    | .daylight => standard + saved
  (c.sunday.index year c.month : Int) * dayTicks + (c.minuteOfDay - offset) * minuteTicks

/-- Whether the clocks are put forward. A saving that starts after it ends runs over New Year. -/
def saves (standard : Int) (s : Saving) (i : Instant) : Bool :=
  let year := (Date.yearOf (i / dayTicks).toNat).1
  let starts := instantOf standard s.minutes year s.starts
  let ends := instantOf standard s.minutes year s.ends
  if starts < ends then starts ≤ i && i < ends else starts ≤ i || i < ends

/-- The offset in minutes at an instant. -/
def offsetAt (r : ZoneRule) (i : Instant) : Int :=
  match r.saving with
  | none => r.standard
  | some s => if saves r.standard s i then r.standard + s.minutes else r.standard

/-- The zone with this rule. -/
def zone (r : ZoneRule) : Zone := ⟨r.name, fun i => r.offsetAt i * minuteTicks⟩

/-- Second Sunday of March to first Sunday of November, at two o'clock by the clock in force. -/
def northAmerican : Saving :=
  ⟨60, ⟨3, .second, 120, .standard⟩, ⟨11, .first, 120, .daylight⟩⟩

/-- Last Sunday of March to last Sunday of October, both at one o'clock in UTC. -/
def european : Saving := ⟨60, ⟨3, .last, 60, .utc⟩, ⟨10, .last, 60, .utc⟩⟩

/-- First Sunday of October to first Sunday of April, at two o'clock standard time. -/
def southAustralian : Saving :=
  ⟨60, ⟨10, .first, 120, .standard⟩, ⟨4, .first, 180, .daylight⟩⟩

/-- Half an hour only, and both changeovers at two o'clock by the clock in force. -/
def lordHowe : Saving :=
  ⟨30, ⟨10, .first, 120, .standard⟩, ⟨4, .first, 120, .daylight⟩⟩

/-- The places of the extract. -/
def known : List ZoneRule :=
  [⟨"GMT", 0, none⟩, ⟨"Zulu", 0, none⟩, ⟨"Etc/UTC", 0, none⟩, ⟨"Asia/Tokyo", 540, none⟩,
    ⟨"Japan", 540, none⟩, ⟨"Asia/Kolkata", 330, none⟩, ⟨"Asia/Kathmandu", 345, none⟩,
    ⟨"Pacific/Kiritimati", 840, none⟩, ⟨"Pacific/Pago_Pago", -660, none⟩,
    ⟨"Etc/GMT+12", -720, none⟩, ⟨"Etc/GMT-14", 840, none⟩, ⟨"America/Sao_Paulo", -180, none⟩,
    ⟨"America/New_York", -300, some northAmerican⟩, ⟨"US/Eastern", -300, some northAmerican⟩,
    ⟨"America/St_Johns", -210, some northAmerican⟩, ⟨"Europe/Rome", 60, some european⟩,
    ⟨"Europe/London", 0, some european⟩, ⟨"Australia/Sydney", 600, some southAustralian⟩,
    ⟨"Australia/Lord_Howe", 630, some lordHowe⟩]

/-- The rule of a name, letter for letter. -/
def named? (name : String) : Option ZoneRule := known.find? (·.name == name)

end ZoneRule

/-- The zone that is set where no other is. -/
def Zone.utc : Zone := ZoneRule.utc.zone

/-! ## Names of zones -/

/-- Why a zone could not be looked up. -/
inductive ZoneFault where
  /-- The name is that of a region. -/
  | region
  /-- The place is looked for in the own entry of a region. -/
  | noRegion
  /-- The name of the place is too long. -/
  | tooLong
deriving DecidableEq, Repr

/-- A database of zones. A name leads to a zone or to none, or it cannot be looked up. -/
structure ZoneDatabase where
  lookUp : String → Except ZoneFault (Option Zone)

namespace ZoneRule

/-- The regions by the names that lead to them; the first holds all others. -/
def regions : List (List String) :=
  [[], ["Africa"], ["America"], ["America", "Argentina"], ["America", "Indiana"],
    ["America", "Kentucky"], ["America", "North_Dakota"], ["Antarctica"], ["Arctic"], ["Asia"],
    ["Atlantic"], ["Australia"], ["Brazil"], ["Canada"], ["Chile"], ["Etc"], ["Europe"],
    ["Indian"], ["Mexico"], ["Pacific"], ["US"]]

/-- The own entry of every region, which is neither a place nor a region. -/
def ownEntry : String := "__init__"

/-- The most bytes that the name of a place can have. -/
def longestPlace : Nat := 255

/-- Whether a part of a name leads somewhere else than into a region. -/
def isDetour (part : List Char) : Bool := part == [] || part == ['.'] || part == ['.', '.']

/-- The rule of a name, none if the name is not known. In front of the place a point separates as a
slash does. A place in a region that does not exist is never looked for, so its name may have any
length. -/
def lookUp (name : String) : Except ZoneFault (Option ZoneRule) :=
  let parts := name.toList.splitOn '/'
  let place := String.ofList (parts.getLastD [])
  let region := (parts.dropLast.flatMap (·.splitOn '.')).map String.ofList
  if parts.any isDetour then .ok none
  else if regions.contains region then
    if longestPlace < place.utf8ByteSize then .error .tooLong
    else if regions.contains (region ++ [place]) then .error .region
    else .ok (named? name)
  else if region.getLast? == some ownEntry && regions.contains region.dropLast then
    .error .noRegion
  else .ok none

end ZoneRule

namespace ZoneDatabase

/-- The extract as a database. -/
def listed : ZoneDatabase := ⟨fun name => (ZoneRule.lookUp name).map (·.map ZoneRule.zone)⟩

/-- The texts that are UTC in capitals. -/
def utcNames : List String := ["UTC", "UTc", "UtC", "Utc", "uTC", "uTc", "utC", "utc"]

/-- What a name comes to: an empty one to no zone, and UTC in any case to itself. They are not
looked up. -/
def find (zones : ZoneDatabase) (name : String) : Except ZoneFault (Option Zone) :=
  if name == "" then .ok none
  else if utcNames.contains name then .ok (some .utc)
  else zones.lookUp name

end ZoneDatabase
end EditorialDesk.Calendar
