import WorkloadIdentity.Number.Decimal
import WorkloadIdentity.Text.Utf8

/-!
JSON values as they are spelled. Texts are kept as the bytes between their quotes, and object
members in the order in which they stand, repeated names included: what is skipped is never
decoded, so a text that nobody reads may hold bytes that are no UTF-8. `Json.readText?` decodes a
text when it is read.
-/

namespace WorkloadIdentity

inductive Json where
  | null
  | bool (value : Bool)
  | number (value : Decimal)
  /-- A text, as the bytes between its quotes. -/
  | text (raw : Bytes)
  | array (items : List Json)
  | object (members : List (Bytes × Json))
deriving Inhabited

namespace Json

/-- The value of a hexadecimal digit. -/
def hexDigit? (b : UInt8) : Option Nat :=
  if 0x30 ≤ b && b ≤ 0x39 then some (b.toNat - 0x30)
  else if 0x41 ≤ b && b ≤ 0x46 then some (b.toNat - 0x41 + 10)
  else if 0x61 ≤ b && b ≤ 0x66 then some (b.toNat - 0x61 + 10)
  else none

/-- The value of four hexadecimal digits. -/
def hexQuad? (a b c d : UInt8) : Option Nat := do
  let a ← hexDigit? a
  let b ← hexDigit? b
  let c ← hexDigit? c
  let d ← hexDigit? d
  return ((a * 16 + b) * 16 + c) * 16 + d

/-- What the character behind a backslash stands for: `"`, `\`, `/`, `b`, `f`, `n`, `r`, `t`. -/
def escaped? (b : UInt8) : Option UInt8 :=
  if b == 0x22 || b == 0x5C || b == 0x2F then some b
  else if b == 0x62 then some 0x08
  else if b == 0x66 then some 0x0C
  else if b == 0x6E then some 0x0A
  else if b == 0x72 then some 0x0D
  else if b == 0x74 then some 0x09
  else none

def isHighSurrogate (n : Nat) : Bool := 0xD800 ≤ n && n ≤ 0xDBFF
def isLowSurrogate (n : Nat) : Bool := 0xDC00 ≤ n && n ≤ 0xDFFF

/-- Replaces the escapes of a text by what they stand for. A surrogate has to be one of a pair. -/
def unescape? : Bytes → Option Bytes
  | 0x5C :: 0x75 :: a :: b :: c :: d :: 0x5C :: 0x75 :: e :: f :: g :: h :: rest => do
    let n ← hexQuad? a b c d
    if isHighSurrogate n then
      let m ← hexQuad? e f g h
      if isLowSurrogate m then
        let c := Char.ofNat (0x10000 + (n - 0xD800) * 0x400 + (m - 0xDC00))
        return String.utf8EncodeChar c ++ (← unescape? rest)
      else none
    else if isLowSurrogate n then none
    else
      let tail ← unescape? (0x5C :: 0x75 :: e :: f :: g :: h :: rest)
      return String.utf8EncodeChar (Char.ofNat n) ++ tail
  | 0x5C :: 0x75 :: a :: b :: c :: d :: rest => do
    let n ← hexQuad? a b c d
    if isHighSurrogate n || isLowSurrogate n then none
    else return String.utf8EncodeChar (Char.ofNat n) ++ (← unescape? rest)
  | 0x5C :: b :: rest => do return (← escaped? b) :: (← unescape? rest)
  | b :: rest => do return b :: (← unescape? rest)
  | [] => some []
termination_by bs => bs.length

/-- The text that raw bytes between quotes spell, if they are UTF-8 and their escapes name
characters. -/
def readText? (raw : Bytes) : Option String := do
  let bytes ← unescape? raw
  Utf8.toString? bytes

end Json

end WorkloadIdentity
