import WorkloadIdentity.Text.Utf8

/-!
Percent encoding. Each byte that a place in a URL does not allow is written as a percent sign and
two hexadecimal digits. Which characters are allowed depends on the place: `isPathReserved` and
its siblings list the ASCII characters that are written out; all others are.

The form encoding is a different alphabet: letters, digits and `*-._` stand for themselves, a
space is a plus sign, and everything else is written out. `formEncode` writes it and `formDecode`
reads it back; `decode` reads the percent encoding of a URL, in which a plus sign stands for
itself.
-/

namespace WorkloadIdentity.Url

def upperHex : Nat → Char
  | n => if n < 10 then Char.ofNat (0x30 + n) else Char.ofNat (0x41 + n - 10)

/-- A byte written out. -/
def escape (b : UInt8) : List Char :=
  ['%', upperHex (b.toNat / 16), upperHex (b.toNat % 16)]

def isControl (c : Char) : Bool := c.toNat < 0x20 || 0x7F ≤ c.toNat

def isFragmentReserved (c : Char) : Bool := isControl c || [' ', '"', '<', '>', '\x60'].contains c

def isQueryReserved (c : Char) : Bool := isControl c || [' ', '"', '#', '<', '>'].contains c

def isSpecialQueryReserved (c : Char) : Bool := isQueryReserved c || c == '\''

def isPathReserved (c : Char) : Bool :=
  isFragmentReserved c || ['#', '?', '^', '\x7b', '\x7d'].contains c

def isUserReserved (c : Char) : Bool :=
  isPathReserved c || ['/', ':', ';', '=', '@', '[', '\\', ']', '|'].contains c

/-- Writes out the characters that are reserved in a place. -/
def percentEncode (isReserved : Char → Bool) (cs : List Char) : List Char :=
  cs.flatMap fun c => if isReserved c then (String.utf8EncodeChar c).flatMap escape else [c]

/-- The value of a hexadecimal digit. -/
def hexValue? (c : Char) : Option Nat :=
  let n := c.toNat
  if 0x30 ≤ n && n ≤ 0x39 then some (n - 0x30)
  else if 0x41 ≤ n && n ≤ 0x46 then some (n - 0x41 + 10)
  else if 0x61 ≤ n && n ≤ 0x66 then some (n - 0x61 + 10)
  else none

/-- The byte that a percent sign and two digits stand for. -/
def escaped? (high low : Char) : Option UInt8 := do
  let high ← hexValue? high
  let low ← hexValue? low
  return UInt8.ofNat (high * 16 + low)

/-- The bytes of a text with its escapes undone; a percent sign without two digits stands for
itself. -/
def decode : List Char → Bytes
  | '%' :: a :: b :: rest =>
    match escaped? a b with
    | some byte => byte :: decode rest
    | none => String.utf8EncodeChar '%' ++ decode (a :: b :: rest)
  | c :: rest => String.utf8EncodeChar c ++ decode rest
  | [] => []

/-- Bytes that the form encoding leaves as they are. -/
def isFormPlain (b : UInt8) : Bool :=
  (0x30 ≤ b && b ≤ 0x39) || (0x41 ≤ b && b ≤ 0x5A) || (0x61 ≤ b && b ≤ 0x7A) ||
    b == 0x2A || b == 0x2D || b == 0x2E || b == 0x5F

/-- A byte in the form encoding. -/
def formByte (b : UInt8) : List Char :=
  if isFormPlain b then [Char.ofNat b.toNat]
  else if b == 0x20 then ['+']
  else escape b

def formEncode (cs : List Char) : List Char := (Utf8.encode cs).flatMap formByte

/-- One name and its value, as the body of a form. -/
def formPair (name value : List Char) : List Char := formEncode name ++ '=' :: formEncode value

/-- The bytes that a part of a form stands for: a plus sign is a space there. -/
def formDecode (cs : List Char) : Bytes :=
  decode (cs.map fun c => if c == '+' then ' ' else c)

end WorkloadIdentity.Url
