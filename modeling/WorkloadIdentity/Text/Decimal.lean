/-!
Reading a natural number written in decimal digits into a word of bounded size. The digits are
taken from the left, so the first fault met is the one reported: a character that is no digit, or
the digit at which the value leaves the range.
-/

namespace WorkloadIdentity.Text

/-- Why a text is no number of the wanted range. -/
inductive NumberFault where
  | empty
  | invalidDigit
  | tooLarge
  | tooSmall
deriving DecidableEq, Repr

def NumberFault.message : NumberFault → String
  | .empty => "cannot parse integer from empty string"
  | .invalidDigit => "invalid digit found in string"
  | .tooLarge => "number too large to fit in target type"
  | .tooSmall => "number too small to fit in target type"

/-- The value of an ASCII digit. -/
def digit? (c : Char) : Option Nat :=
  if '0' ≤ c && c ≤ '9' then some (c.toNat - '0'.toNat) else none

/-- Digits read from the left on top of `acc`, with a value of at most `max`. -/
def readDigits (max : Nat) (acc : Nat) : List Char → Except NumberFault Nat
  | [] => .ok acc
  | c :: rest =>
    match digit? c with
    | none => .error .invalidDigit
    | some d => if 10 * acc + d ≤ max then readDigits max (10 * acc + d) rest else .error .tooLarge

/-- A natural number of at most `max`, with an optional plus sign in front. -/
def readNat (max : Nat) : List Char → Except NumberFault Nat
  | [] => .error .empty
  | ['+'] => .error .invalidDigit
  | '+' :: rest => readDigits max 0 rest
  | cs => readDigits max 0 cs

/-- A whole number between `-(max + 1)` and `max`, with an optional sign in front. -/
def readInt (max : Nat) : List Char → Except NumberFault Int
  | ['-'] => .error .invalidDigit
  | '-' :: rest =>
    match readDigits (max + 1) 0 rest with
    | .ok n => .ok (-(n : Int))
    | .error .tooLarge => .error .tooSmall
    | .error fault => .error fault
  | cs => (readNat max cs).map Int.ofNat

/-- The decimal digits of a number. -/
def digits (n : Nat) : List Char := Nat.toDigits 10 n

end WorkloadIdentity.Text
