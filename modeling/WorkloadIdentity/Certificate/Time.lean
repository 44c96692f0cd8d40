import WorkloadIdentity.Calendar
import WorkloadIdentity.Der

/-!
The times that certificates are valid from and until. There are two forms. The short one has a
year of two digits, which lies between 1950 and 2049, and may name its distance from the prime
meridian; the long one has a year of four digits and may have a fraction of a second. The seconds
may be missing in both.
-/

namespace WorkloadIdentity.Certificate

open Der

/-- Two decimal digits. -/
def twoDigits : Reading Nat := do
  let high ← byte
  let low ← byte
  guard (0x30 ≤ high ∧ high ≤ 0x39 ∧ 0x30 ≤ low ∧ low ≤ 0x39)
  return (high.toNat - 0x30) * 10 + (low.toNat - 0x30)

/-- Month, day and time of day behind a year. The seconds count as zero where at most one
character stands in their place. -/
def civil (year : Nat) : Reading Calendar.Civil := do
  let month ← twoDigits
  let day ← twoDigits
  let hour ← twoDigits
  let minute ← twoDigits
  let second ← if 2 ≤ (← get).length then twoDigits else pure 0
  let date : Calendar.Civil := { year, month, day, hour, minute, second }
  guard date.isValid
  return date

/-- How many minutes a zone is ahead: the letter `Z`, or a sign, hours and minutes. Where there
are no hours, the minutes count as ahead whatever the sign is. -/
def zone : Reading Int := do
  let mark ← byte
  if mark = 0x5A then return 0
  else
    guard (mark = 0x2B ∨ mark = 0x2D)
    let hours ← twoDigits
    let minutes ← twoDigits
    guard (hours ≤ 25 ∧ minutes < 60)
    let ahead : Int := hours * 60 + minutes
    return if mark = 0x2D ∧ hours ≠ 0 then -ahead else ahead

/-- The century that a year of two digits belongs to. -/
def fullYear (year : Nat) : Nat := if 50 ≤ year then 1900 + year else 2000 + year

def shortTime? (text : Bytes) : Option WallTime :=
  Der.whole text do
    let date ← civil (fullYear (← twoDigits))
    let ahead ← zone
    return date.time - ahead * 60 * nanosPerSec

/-- The milliseconds of up to three digits behind a point; none of them have to be there. -/
def fraction : Reading Nat := do
  let digits := (← get).takeWhile fun b => 0x30 ≤ b && b ≤ 0x39
  guard (digits.length ≤ 3)
  set ((← get).drop digits.length)
  let value := digits.foldl (fun n b => n * 10 + (b.toNat - 0x30)) 0
  return value * Nat.pow 10 (3 - digits.length)

def longTime? (text : Bytes) : Option WallTime :=
  Der.whole text do
    let century ← twoDigits
    let year ← twoDigits
    let date ← civil (century * 100 + year)
    let mark ← byte
    let millis ← if mark = 0x2E then (do let f ← fraction; guard ((← byte) = 0x5A); pure f)
      else (do guard (mark = 0x5A); pure 0)
    return date.time + millis * 1000000

/-- A time in either form. -/
def time : Reading WallTime := do
  let e ← element
  if e.tag.number = Tag.shortTime then ofOption (shortTime? e.content)
  else if e.tag.number = Tag.longTime then ofOption (longTime? e.content)
  else failure

end WorkloadIdentity.Certificate
