import WorkloadIdentity.Number.Word
import WorkloadIdentity.Value

/-!
What can be wrong with a value that a setting is read from, and the two ways of saying it: one for
a JSON body, one for layered sources. Both name what was found and what was expected; the second
is followed by the key and the source.
-/

namespace WorkloadIdentity

/-- How a value that does not fit is spoken of. -/
inductive Dialect where
  | json
  | layered
deriving DecidableEq, Repr

/-- A value that does not fit its setting. -/
inductive Mismatch where
  | wrongType (found expected : String)
  | wrongValue (found expected : String)
  | unknownVariant (name : String) (variants : List String)
  | tooManyItems (count : Nat)
  /-- Refused with words of its own. -/
  | refused (words : String)
deriving DecidableEq, Repr

/-- A mismatch and the keys that lead to it. -/
structure Problem where
  path : List String
  mismatch : Mismatch
deriving DecidableEq, Repr

namespace Dialect

def digits (i : Int) : String :=
  let ds := String.ofList (Text.digits i.natAbs)
  if i < 0 then "-" ++ ds else ds

/-- A whole number that fits no word of 64 bits. -/
def isOversized (i : Int) : Bool := i < -(signedWord64 : Int) || (word64 : Int) ≤ i

/-- Such a number, spoken of alike in both dialects. -/
def oversized (i : Int) : String :=
  "integer \x60" ++ digits i ++ "\x60 as " ++ (if i < 0 then "i128" else "u128")

/-- What was found. -/
def describe : Dialect → Value → String
  | .json, .null => "null"
  | .json, .bool b => "boolean \x60" ++ (if b then "true" else "false") ++ "\x60"
  | .json, .int i =>
    if isOversized i then oversized i else "integer \x60" ++ digits i ++ "\x60"
  | .json, .negativeZero => "integer \x600\x60"
  | .json, .float x => "floating point \x60" ++ x.shownWithPoint .double ++ "\x60"
  | .json, .char c => "character \x60" ++ c.toString ++ "\x60"
  | .layered, .null => "unit"
  | .layered, .bool b => "bool " ++ (if b then "true" else "false")
  | .layered, .int i =>
    if isOversized i then oversized i
    else (if i < 0 then "signed int \x60" else "unsigned int \x60") ++ digits i ++ "\x60"
  | .layered, .negativeZero => "signed int \x600\x60"
  | .layered, .float x => "float \x60" ++ x.shown .double ++ "\x60"
  | .layered, .char c => "char " ++ Text.quotedSingle c
  | _, .text s => "string " ++ Text.quoted s
  | _, .list _ => "sequence"
  | _, .record _ => "map"

/-- Names in backticks with commas between them. -/
def oneOf (names : List String) : String :=
  "one of " ++ ", ".intercalate (names.map fun name => "\x60" ++ name ++ "\x60")

/-- What is said of a mismatch. -/
def message : Dialect → Mismatch → String
  | .json, .wrongType found expected => "invalid type: " ++ found ++ ", expected " ++ expected
  | .json, .wrongValue found expected => "invalid value: " ++ found ++ ", expected " ++ expected
  | .json, .unknownVariant name variants =>
    "unknown variant \x60" ++ name ++ "\x60, expected " ++ oneOf variants
  | .layered, .wrongType found expected =>
    "invalid type: found " ++ found ++ ", expected " ++ expected
  | .layered, .wrongValue found expected =>
    "invalid value " ++ found ++ ", expected " ++ expected
  | .layered, .unknownVariant name variants =>
    "unknown variant: found \x60" ++ name ++ "\x60, expected \x60" ++ oneOf variants ++ "\x60"
  | _, .tooManyItems count =>
    "invalid length " ++ String.ofList (Text.digits count) ++
      ", expected fewer elements in array"
  | _, .refused words => words

end Dialect

end WorkloadIdentity
