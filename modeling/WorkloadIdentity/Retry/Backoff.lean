import WorkloadIdentity.Settings.Basic

/-!
The delays between attempts. The first one is the initial delay, whatever the cap says. Each later
one is the one before it times a factor, cut to the cap; a delay that has reached the cap does not
grow. The product is computed in floating-point numbers of thirty-two bits and rounded to a
nanosecond; one that is negative, too large or no number is the longest duration.
-/

namespace WorkloadIdentity

namespace Duration

/-- The duration in seconds, as the sum of its whole seconds and the rest. -/
def toFloating (d : Duration) : Floating :=
  let whole := Floating.ofNat .single d.secs
  let rest := Floating.divNat .single (Floating.ofNat .single d.subsecNanos) nanosPerSec
  Floating.addNonneg .single whole rest

/-- A number of seconds rounded to a nanosecond, the even one of two that are equally near. -/
def ofFloating? : Floating → Option Duration
  | .finite negative mantissa exponent =>
    if negative && mantissa ≠ 0 then none
    else
      let (num, den) := Floating.quotient (mantissa * nanosPerSec) exponent
      ofNanos? (Floating.roundDiv num den)
  | _ => none

/-- The duration times a factor. -/
def scale (d : Duration) (factor : Floating) : Duration :=
  (ofFloating? (Floating.mul .single factor d.toFloating)).getD max

end Duration

/-- Where a sequence of delays stands. -/
structure Backoff where
  initial : Duration
  cap : Duration
  factor : Floating
  /-- How many more delays there are; without a number there is always another one. -/
  left : Option Nat
  /-- The delay that was given last. -/
  last : Option Duration
deriving DecidableEq, Repr

namespace Backoff

/-- The delays of a cycle. One attempt needs none before it, so there is one delay fewer than
there may be attempts. -/
def ofSettings (s : RetrySettings) : Backoff where
  initial := s.initialBackoff
  cap := s.maxBackoff
  factor := s.multiplier
  left := if s.maxAttempts = 0 then none else some (s.maxAttempts - 1)
  last := none

/-- The delay that follows `last`. -/
def grow (cap : Duration) (factor : Floating) (last : Duration) : Duration :=
  let grown := if last < cap then last.scale factor else last
  if cap < grown then cap else grown

/-- The next delay, if there is one, and where the sequence stands then. -/
def next? (b : Backoff) : Option (Duration × Backoff) :=
  if b.left = some 0 then none
  else
    let delay :=
      match b.last with
      | none => b.initial
      | some last => grow b.cap b.factor last
    some (delay, { b with left := b.left.map (· - 1), last := some delay })

/-- The first delays, at most `count` of them, and where the sequence stands then. -/
def take : Nat → Backoff → List Duration × Backoff
  | 0, b => ([], b)
  | count + 1, b =>
    match b.next? with
    | none => ([], b)
    | some (delay, b) =>
      let (delays, b) := take count b
      (delay :: delays, b)

end Backoff

end WorkloadIdentity
