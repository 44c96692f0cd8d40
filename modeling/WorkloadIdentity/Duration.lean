import WorkloadIdentity.Number.Word
import WorkloadIdentity.Text.Blank
import WorkloadIdentity.Text.Decimal

/-!
Spans of time. A duration is a whole number of nanoseconds below `2 ^ 64` seconds, so adding two
of them can fail. It has two written forms: the one of settings (`30s`, `5m`, `250 ms`, a bare
number of seconds), read by `Duration.parse` and written by `Duration.written`, and the one of
messages (`1.5s`, `3ms`, `1µs`), written by `Duration.shown`.
-/

namespace WorkloadIdentity

/-- Nanoseconds in a second. -/
abbrev nanosPerSec : Nat := 1000000000

/-- A span of time in nanoseconds. -/
structure Duration where
  nanos : Nat
  nanos_lt : nanos < word64 * nanosPerSec
deriving DecidableEq, Repr

namespace Duration

def zero : Duration := ⟨0, by decide⟩

instance : Inhabited Duration := ⟨zero⟩

/-- The longest duration. -/
def max : Duration := ⟨word64 * nanosPerSec - 1, by decide⟩

def ofNanos? (n : Nat) : Option Duration :=
  if h : n < word64 * nanosPerSec then some ⟨n, h⟩ else none

def ofSecs? (n : Nat) : Option Duration :=
  if h : n < word64 then some ⟨n * nanosPerSec, Nat.mul_lt_mul_of_pos_right h (by decide)⟩ else none

/-- Whole seconds, or the longest duration if they are too many. -/
def ofSecs (n : Nat) : Duration := (ofSecs? n).getD max

def ofMillis? (n : Nat) : Option Duration := ofNanos? (n * 1000000)

/-- Whole seconds of the duration. -/
def secs (d : Duration) : Nat := d.nanos / nanosPerSec

/-- The nanoseconds that its whole seconds leave over. -/
def subsecNanos (d : Duration) : Nat := d.nanos % nanosPerSec

/-- Whole milliseconds, rounded down. -/
def millis (d : Duration) : Nat := d.nanos / 1000000

instance : LT Duration := ⟨fun a b => a.nanos < b.nanos⟩
instance : LE Duration := ⟨fun a b => a.nanos ≤ b.nanos⟩
instance (a b : Duration) : Decidable (a < b) := inferInstanceAs (Decidable (a.nanos < b.nanos))
instance (a b : Duration) : Decidable (a ≤ b) := inferInstanceAs (Decidable (a.nanos ≤ b.nanos))

/-- The sum, unless it leaves the range. -/
def add? (a b : Duration) : Option Duration := ofNanos? (a.nanos + b.nanos)

/-! ### The form of settings -/

/-- Why a text is no duration. The text is the one given, trimmed. -/
inductive Fault where
  | number (text : String) (fault : Text.NumberFault)
  | outOfRange (text : String)
deriving DecidableEq, Repr

def Fault.message : Fault → String
  | .number text fault => "invalid duration '" ++ text ++ "': " ++ fault.message
  | .outOfRange text => "invalid duration '" ++ text ++ "': out of range"

/-- Units of the settings form. -/
inductive Scale where
  | millis
  | secs
  | mins
  | hours
deriving DecidableEq, Repr

def Scale.suffix : Scale → String
  | .millis => "ms"
  | .secs => "s"
  | .mins => "m"
  | .hours => "h"

/-- The span that a count of a unit stands for. Counts of seconds and milliseconds below `2 ^ 64`
are always in range. -/
def Scale.span? : Scale → Nat → Option Duration
  | .millis, n => ofMillis? n
  | .secs, n => ofSecs? n
  | .mins, n => ofSecs? (n * 60)
  | .hours, n => ofSecs? (n * 3600)

/-- The units in the order in which they are looked for at the end of a text: the unit `ms` ends
in the unit `s`, so it comes first. -/
def Scale.all : List Scale := [.millis, .secs, .mins, .hours]

/-- The text in front of the given ending. -/
def beforeSuffix? (suffix cs : List Char) : Option (List Char) :=
  if suffix.isSuffixOf cs then some (cs.take (cs.length - suffix.length)) else none

/-- Splits a text into its count and its unit, which is seconds when none is written. -/
def splitScale (cs : List Char) : List Char × Scale :=
  let found := Scale.all.findSome? fun scale =>
    (beforeSuffix? scale.suffix.toList cs).map (·, scale)
  found.getD (cs, .secs)

/-- Reads the settings form: blanks, a number below `2 ^ 64`, blanks and a unit. -/
def parse (raw : String) : Except Fault Duration :=
  let text := Text.trim raw.toList
  let (count, scale) := splitScale text
  match Text.readNat (word64 - 1) (Text.trim count) with
  | .error fault => .error (.number (String.ofList text) fault)
  | .ok n =>
    match scale.span? n with
    | some d => .ok d
    | none => .error (.outOfRange (String.ofList text))

/-- Writes the settings form: whole seconds where the duration is a number of them, and whole
milliseconds rounded down otherwise. -/
def written (d : Duration) : String :=
  if d.subsecNanos = 0 then String.ofList (Text.digits d.secs) ++ "s"
  else String.ofList (Text.digits d.millis) ++ "ms"

/-! ### The form of messages -/

/-- A fraction of `width` digits without the zeros at its end, behind a point; nothing for
zero. -/
def shownFraction (value width : Nat) : List Char :=
  let ds := Text.digits value
  let padded := List.replicate (width - ds.length) '0' ++ ds
  let kept := (padded.reverse.dropWhile (· == '0')).reverse
  if kept.isEmpty then [] else '.' :: kept

/-- The largest of the units s, ms, µs and ns that the duration fills once, with all its
decimals. -/
def shown (d : Duration) : String :=
  let n := d.nanos
  let number (unit width : Nat) : String :=
    String.ofList (Text.digits (n / unit) ++ shownFraction (n % unit) width)
  if n ≥ nanosPerSec then number nanosPerSec 9 ++ "s"
  else if n ≥ 1000000 then number 1000000 6 ++ "ms"
  else if n ≥ 1000 then number 1000 3 ++ "µs"
  else number 1 0 ++ "ns"

end Duration

end WorkloadIdentity
