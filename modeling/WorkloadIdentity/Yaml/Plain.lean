import WorkloadIdentity.Number.Word
import WorkloadIdentity.Value

/-!
What a plain text stands for: nothing, a truth value, a number, or itself. Numbers have an
optional sign and may be written in other bases; a zero in front of other digits makes no number.
Only whole numbers that fit a word of 128 bits are whole; longer ones are floating-point numbers,
and those beyond their range are texts.
-/

namespace WorkloadIdentity.Yaml

def isNull (text : List Char) : Bool :=
  ["null", "Null", "NULL", "~"].any (·.toList == text)

def bool? (text : List Char) : Option Bool :=
  if ["true", "True", "TRUE"].any (·.toList == text) then some true
  else if ["false", "False", "FALSE"].any (·.toList == text) then some false
  else none

/-- The value of digits of a base of at most sixteen. -/
def digitsValue? (base : Nat) (digits : List Char) : Option Nat := do
  let value (c : Char) : Option Nat :=
    let n := c.toNat
    let found :=
      if '0' ≤ c && c ≤ '9' then some (n - 0x30)
      else if 'a' ≤ c && c ≤ 'f' then some (n - 0x61 + 10)
      else if 'A' ≤ c && c ≤ 'F' then some (n - 0x41 + 10)
      else none
    found.filter (· < base)
  if digits.isEmpty then none
  let values ← digits.mapM value
  return values.foldl (fun acc d => acc * base + d) 0

/-- Digits of which the first is a zero and not the only one. -/
def hasLeadingZero (unsigned : List Char) : Bool :=
  match unsigned with
  | '0' :: c :: rest => (c :: rest).all fun c => (Text.digit? c).isSome
  | _ => false

/-- A natural number: behind `0x`, `0o` or `0b` in that base, and in decimal digits otherwise. -/
def natural? (unsigned : List Char) : Option Nat :=
  match unsigned with
  | '0' :: 'x' :: digits => digitsValue? 16 digits
  | '0' :: 'o' :: digits => digitsValue? 8 digits
  | '0' :: 'b' :: digits => digitsValue? 2 digits
  | digits => if hasLeadingZero digits then none else digitsValue? 10 digits

/-- A whole number of at most 128 bits. -/
def integer? (text : List Char) : Option Value :=
  match text with
  | '-' :: unsigned =>
    match natural? unsigned with
    | some 0 => some .negativeZero
    | some n => if n ≤ signedWord128 then some (.int (-(n : Int))) else none
    | none => none
  | '+' :: unsigned => positive unsigned
  | unsigned => positive unsigned
where
  positive (unsigned : List Char) : Option Value :=
    ((natural? unsigned).filter (· < word128)).map fun n => .int n

/-- A floating-point number of sixty-four bits. Infinity and what is no number are spelled with a
point in front. -/
def float? (text : List Char) : Option Floating :=
  let is (names : List String) (text : List Char) : Bool := names.any (·.toList == text)
  let unsigned :=
    match text with
    | '+' :: rest => rest
    | other => other
  if text.head? == some '+' && (unsigned.head? == some '+' || unsigned.head? == some '-') then none
  else if is [".inf", ".Inf", ".INF"] unsigned then some (.infinite false)
  else if is ["-.inf", "-.Inf", "-.INF"] text then some (.infinite true)
  else if is [".nan", ".NaN", ".NAN"] text then some .nan
  else do
    let d ← Decimal.parse? unsigned
    match Floating.ofDecimal .double d with
    | .finite negative mantissa exponent => some (.finite negative mantissa exponent)
    | _ => none

/-- Whether the text is one of digits with a zero in front that makes it no number. -/
def isPaddedNumber (text : List Char) : Bool :=
  match text with
  | '-' :: rest | '+' :: rest => hasLeadingZero rest
  | other => hasLeadingZero other

/-- The value of a plain text. -/
def plainValue (text : List Char) : Value :=
  if text.isEmpty || isNull text then .null
  else
    match bool? text, integer? text with
    | some b, _ => .bool b
    | _, some value => value
    | _, _ =>
      match if isPaddedNumber text then none else float? text with
      | some x => .float x
      | none => .text (String.ofList text)

end WorkloadIdentity.Yaml
