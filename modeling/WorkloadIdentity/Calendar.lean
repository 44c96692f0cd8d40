import WorkloadIdentity.Duration

/-!
Civil dates and points in time. A point in time is the number of nanoseconds since the beginning
of 1970; dates follow the Gregorian calendar in all years, before its introduction as well, and
end with the year 9999.
-/

namespace WorkloadIdentity

/-- Nanoseconds since the beginning of 1970, without leap seconds. -/
abbrev WallTime := Int

namespace Calendar

def isLeap (year : Nat) : Bool := year % 4 == 0 && (year % 100 != 0 || year % 400 == 0)

def daysInMonth (year month : Nat) : Nat :=
  match month with
  | 2 => if isLeap year then 29 else 28
  | 4 | 6 | 9 | 11 => 30
  | 1 | 3 | 5 | 7 | 8 | 10 | 12 => 31
  | _ => 0

/-- The days from the beginning of the year zero to the beginning of a year. -/
def daysBeforeYear (year : Nat) : Nat :=
  365 * year + (year + 3) / 4 - (year + 99) / 100 + (year + 399) / 400

/-- The days from the beginning of a year to the beginning of a month. -/
def daysBeforeMonth (year month : Nat) : Nat :=
  (List.range (month - 1)).foldl (fun days m => days + daysInMonth year (m + 1)) 0

/-- The days from the beginning of 1970 to a date. -/
def days (year month day : Nat) : Int :=
  (daysBeforeYear year + daysBeforeMonth year month + day : Nat) - 1 - (daysBeforeYear 1970 : Nat)

/-- A date and a time of day. -/
structure Civil where
  year : Nat
  month : Nat
  day : Nat
  hour : Nat
  minute : Nat
  second : Nat
deriving DecidableEq, Repr

/-- There is such a date, and such a time on it. -/
def Civil.isValid (c : Civil) : Bool :=
  1 ≤ c.day && c.day ≤ daysInMonth c.year c.month && c.hour < 24 && c.minute < 60 && c.second < 60

/-- The point in time of a date and time on the prime meridian. -/
def Civil.time (c : Civil) : WallTime :=
  let ofDay : Nat := c.hour * 3600 + c.minute * 60 + c.second
  (days c.year c.month c.day * 86400 + ofDay) * nanosPerSec

end Calendar

namespace WallTime

/-- The last point in time that has a date. -/
def latest : WallTime := Calendar.Civil.time ⟨9999, 12, 31, 23, 59, 59⟩ + 999999999

/-- The longest span that points in time are moved by: as many seconds as a signed word of 64 bits
counts, and the last nanosecond before the next one. -/
def longestSpan : Int := ((signedWord64 : Int) - 1) * nanosPerSec + 999999999

/-- The point in time that lies a duration later, or the last one if it has no date any more. -/
def after (t : WallTime) (d : Duration) : WallTime :=
  min latest (t + min (d.nanos : Int) longestSpan)

end WallTime

end WorkloadIdentity
