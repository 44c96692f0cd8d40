import WorkloadIdentity.Text.Decimal

/-!
Numbers in decimal notation: a sign, a coefficient and a power of ten. The notation remembers
whether it was written with a point or an exponent, since readers of such numbers tell `2` and
`2.0` apart.
-/

namespace WorkloadIdentity

/-- The number `± coefficient · 10 ^ exponent` as it was written. -/
structure Decimal where
  negative : Bool
  coefficient : Nat
  exponent : Int
  /-- Written without a point and without an exponent. -/
  whole : Bool
deriving DecidableEq, Repr

namespace Decimal

/-- The value of a run of digits; other characters do not occur. -/
def valueOf (ds : List Char) : Nat :=
  ds.foldl (fun acc c => 10 * acc + (Text.digit? c).getD 0) 0

/-- A number from the digits before and after the point and from the exponent. -/
def ofParts (negative : Bool) (before after : List Char) (exponent : Int) (whole : Bool) :
    Decimal where
  negative := negative
  coefficient := valueOf (before ++ after)
  exponent := exponent - after.length
  whole := whole

/-- Whether there is a minus sign in front, and what stands behind the sign. -/
def cutSign : List Char → Bool × List Char
  | '-' :: rest => (true, rest)
  | '+' :: rest => (false, rest)
  | cs => (false, cs)

def isDigit (c : Char) : Bool := (Text.digit? c).isSome

/-- The digits behind a point, if there is one in front, and what stands behind them. -/
def cutFraction : List Char → Option (List Char) × List Char
  | '.' :: rest => (some (rest.takeWhile isDigit), rest.dropWhile isDigit)
  | cs => (none, cs)

/-- Reads a number: a sign, digits with a point among them or at either end, and an exponent.
There is at least one digit, and one in the exponent. -/
def parse? (cs : List Char) : Option Decimal :=
  let (negative, cs) := cutSign cs
  let before := cs.takeWhile isDigit
  let (after?, cs) := cutFraction (cs.dropWhile isDigit)
  let after := after?.getD []
  if before.isEmpty && after.isEmpty then none
  else
    match cs with
    | [] => some (ofParts negative before after 0 after?.isNone)
    | e :: rest =>
      let (down, ds) := cutSign rest
      if (e == 'e' || e == 'E') && !ds.isEmpty && ds.all isDigit then
        let n : Int := valueOf ds
        some (ofParts negative before after (if down then -n else n) false)
      else none

/-- The value of a number written without point and exponent. -/
def toInt? (d : Decimal) : Option Int :=
  if d.whole then some (if d.negative then -(d.coefficient : Int) else d.coefficient) else none

end Decimal

end WorkloadIdentity
