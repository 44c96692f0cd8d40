import WorkloadIdentity.Number.Decimal

/-!
Binary floating-point numbers in exact arithmetic. A value is a sign, a mantissa and a power of
two; a format says how many bits a mantissa has and which exponents there are. Every operation
computes the exact result as a quotient of natural numbers and rounds it once, to the nearest
value of the format and to the even one of two that are equally near.

`Floating.shortest` gives the fewest decimal digits that still round to the value.
-/

namespace WorkloadIdentity

/-- A floating-point value; a finite one is `± mantissa · 2 ^ exponent`. -/
inductive Floating where
  | nan
  | infinite (negative : Bool)
  | finite (negative : Bool) (mantissa : Nat) (exponent : Int)
deriving DecidableEq, Repr, Inhabited

/-- The values of a format: mantissas below `2 ^ precision` with exponents between the two
bounds. -/
structure FloatFormat where
  precision : Nat
  minExponent : Int
  maxExponent : Int

/-- Thirty-two bits. -/
def FloatFormat.single : FloatFormat := ⟨24, -149, 104⟩

/-- Sixty-four bits. -/
def FloatFormat.double : FloatFormat := ⟨53, -1074, 971⟩

namespace Floating

def zero (negative : Bool) : Floating := .finite negative 0 0

/-- The whole number nearest to a quotient, and the even one of two. -/
def roundDiv (num den : Nat) : Nat :=
  let q := num / den
  let r := num % den
  if 2 * r < den then q
  else if den < 2 * r then q + 1
  else if q % 2 = 0 then q
  else q + 1

/-- The quotient `num / den` divided by a power of two, as a quotient. -/
def scaleDown (num den : Nat) (exponent : Int) : Nat × Nat :=
  if 0 ≤ exponent then (num, den * Nat.pow 2 exponent.toNat)
  else (num * Nat.pow 2 (-exponent).toNat, den)

/-- The exponent at which the quotient has a mantissa of full length, or the least one. -/
def exponentOf (format : FloatFormat) (num den : Nat) : Int :=
  let guess : Int := (Nat.log2 num : Int) - (Nat.log2 den : Int) - (format.precision : Int) + 1
  let (n, d) := scaleDown num den guess
  let exact := if n < d * Nat.pow 2 (format.precision - 1) then guess - 1 else guess
  max exact format.minExponent

/-- The value of the format that is nearest to `± num / den`. -/
def round (format : FloatFormat) (negative : Bool) (num den : Nat) : Floating :=
  if num = 0 then zero negative
  else
    let exponent := exponentOf format num den
    let (n, d) := scaleDown num den exponent
    let mantissa := roundDiv n d
    let (mantissa, exponent) :=
      if mantissa = Nat.pow 2 format.precision then (Nat.pow 2 (format.precision - 1), exponent + 1)
      else (mantissa, exponent)
    if format.maxExponent < exponent then .infinite negative else .finite negative mantissa exponent

/-- A finite value's size as a quotient. -/
def quotient (mantissa : Nat) (exponent : Int) : Nat × Nat :=
  if 0 ≤ exponent then (mantissa * Nat.pow 2 exponent.toNat, 1)
  else (mantissa, Nat.pow 2 (-exponent).toNat)

/-- The value of another format that is nearest. -/
def convert (format : FloatFormat) : Floating → Floating
  | .finite negative mantissa exponent =>
    let (num, den) := quotient mantissa exponent
    round format negative num den
  | other => other

def ofNat (format : FloatFormat) (n : Nat) : Floating := round format false n 1

def ofInt (format : FloatFormat) (i : Int) : Floating := round format (i < 0) i.natAbs 1

/-- The value nearest to a decimal number. Exponents beyond the format's range are told from the
number of digits, so no power of ten larger than the range needs is ever computed. -/
def ofDecimal (format : FloatFormat) (d : Decimal) : Floating :=
  if d.coefficient = 0 then zero d.negative
  else
    let magnitude : Int := d.exponent + (Text.digits d.coefficient).length
    if format.maxExponent + format.precision < magnitude then .infinite d.negative
    else if magnitude < format.minExponent - 1 then zero d.negative
    else if 0 ≤ d.exponent then
      round format d.negative (d.coefficient * Nat.pow 10 d.exponent.toNat) 1
    else round format d.negative d.coefficient (Nat.pow 10 (-d.exponent).toNat)

def mul (format : FloatFormat) : Floating → Floating → Floating
  | .nan, _ | _, .nan => .nan
  | .infinite s, .infinite t => .infinite (s != t)
  | .infinite s, .finite t m _ | .finite t m _, .infinite s =>
    if m = 0 then .nan else .infinite (s != t)
  | .finite s m e, .finite t n f =>
    let (num, den) := quotient (m * n) (e + f)
    round format (s != t) num den

/-- The sum of two finite values that are not negative; other operands do not occur. -/
def addNonneg (format : FloatFormat) : Floating → Floating → Floating
  | .finite _ m e, .finite _ n f =>
    let (a, b) := quotient m e
    let (c, d) := quotient n f
    round format false (a * d + c * b) (b * d)
  | _, _ => .nan

/-- A finite value that is not negative, divided by a positive number; other operands do not
occur. -/
def divNat (format : FloatFormat) : Floating → Nat → Floating
  | .finite s m e, n =>
    let (num, den) := quotient m e
    round format s num (den * n)
  | other, _ => other

/-! ### Decimal digits -/

/-- The largest `k` with `10 ^ k ≤ num / den`, for a positive quotient. -/
def decade (num den : Nat) : Int :=
  if den ≤ num then ((Text.digits (num / den)).length : Int) - 1
  else -((Text.digits ((den - 1) / num)).length : Int)

/-- The quotient `num / den` divided by a power of ten, as a quotient. -/
def scaleDownTen (num den : Nat) (exponent : Int) : Nat × Nat :=
  if 0 ≤ exponent then (num, den * Nat.pow 10 exponent.toNat)
  else (num * Nat.pow 10 (-exponent).toNat, den)

/-- A decimal of `count` digits that rounds to the value `num / den`, whose rounding interval runs
from `low / den` to `high / den`: one of the two neighbours on the grid of that many digits, and
the nearer one where both round to it. -/
def decimalOf? (num den low high : Nat) (ends : Bool) (count : Nat) : Option (Nat × Int) :=
  let exponent := decade num den - (count : Int) + 1
  let (n, d) := scaleDownTen num den exponent
  let below := n / d
  let within (candidate : Nat) : Bool :=
    let (l, d) := scaleDownTen low den exponent
    let (h, _) := scaleDownTen high den exponent
    if ends then l ≤ candidate * d && candidate * d ≤ h else l < candidate * d && candidate * d < h
  let above := below + 1
  if within below then
    if within above && above * d - n < n - below * d then some (above, exponent)
    else some (below, exponent)
  else if within above then some (above, exponent)
  else none

/-- The fewest digits that round to a positive finite value, as a coefficient and a power of
ten. -/
def shortest (format : FloatFormat) (mantissa : Nat) (exponent : Int) : Nat × Int :=
  -- In quarters of the last place the neighbours' midpoints are whole; the one below is half as far
  -- where the mantissa is the least of its exponent.
  let low := 4 * mantissa -
    (if mantissa = Nat.pow 2 (format.precision - 1) && format.minExponent < exponent then 1 else 2)
  let (num, den) := quotient (4 * mantissa) (exponent - 2)
  let (low, _) := quotient low (exponent - 2)
  let (high, _) := quotient (4 * mantissa + 2) (exponent - 2)
  let counts := (List.range 17).map (· + 1)
  (counts.findSome? (decimalOf? num den low high (mantissa % 2 == 0))).getD (num / den, 0)

/-- Drops the zeros at the end of a coefficient; `fuel` bounds their number. -/
def dropZeros : Nat → Nat × Int → Nat × Int
  | fuel + 1, (n, e) => if n ≠ 0 ∧ n % 10 = 0 then dropZeros fuel (n / 10, e + 1) else (n, e)
  | 0, ne => ne

/-- A coefficient and a power of ten written with a point where needed and without an exponent. -/
def positional (coefficient : Nat) (exponent : Int) : List Char :=
  let ds := Text.digits coefficient
  if 0 ≤ exponent then ds ++ List.replicate exponent.toNat '0'
  else
    let places := (-exponent).toNat
    let padded := List.replicate (places + 1 - ds.length) '0' ++ ds
    padded.take (padded.length - places) ++ '.' :: padded.drop (padded.length - places)

/-- A value in a message: its shortest digits without an exponent. -/
def shown (format : FloatFormat) : Floating → String
  | .nan => "NaN"
  | .infinite negative => if negative then "-inf" else "inf"
  | .finite negative mantissa exponent =>
    let text :=
      if mantissa = 0 then ['0']
      else
        let (n, e) := dropZeros 400 (shortest format mantissa exponent)
        positional n e
    String.ofList (if negative then '-' :: text else text)

/-- A value in a message that marks it as no whole number: `2.0` rather than `2`. -/
def shownWithPoint (format : FloatFormat) (x : Floating) : String :=
  let text := shown format x
  match x with
  | .finite .. => if text.toList.contains '.' then text else text ++ ".0"
  | _ => text

end Floating

end WorkloadIdentity
