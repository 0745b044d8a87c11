import SourceRegistry.Time.Date

/-!
# Instants

A point in time as its date and time of day in UTC. A leap second is the second after 59, written
60.
-/

namespace SourceRegistry

structure Instant where
  date : Date
  hour : Nat
  minute : Nat
  second : Nat
  nanosecond : Nat
  deriving DecidableEq, Repr

namespace Instant

/-- The seconds since midnight; a leap second counts like the one after it. -/
def secondOfDay (t : Instant) : Nat := 3600 * t.hour + 60 * t.minute + t.second

/-- The seconds since the first day of the year zero. -/
def seconds (t : Instant) : Int := 86400 * t.date.dayNumber + t.secondOfDay

/-- The same second of the minute that lies a number of minutes later. -/
def addMinutes (t : Instant) (n : Int) : Instant :=
  let minutes := (60 * t.hour + t.minute : Nat) + n
  let ofDay := (minutes % 1440).toNat
  let days := minutes / 1440
  let date := if 0 ≤ days then Nat.repeat Date.next days.toNat t.date
    else Nat.repeat Date.previous days.natAbs t.date
  { t with date, hour := ofDay / 60, minute := ofDay % 60 }

end Instant

end SourceRegistry
