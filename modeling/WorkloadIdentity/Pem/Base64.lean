import WorkloadIdentity.Text.Utf8

/-!
Base64. `encode` writes three bytes as four digits and fills the last group with padding;
`decode?` reads digits with blanks anywhere between them. Padding may be left out, but where there
is some, it has to fill the last group exactly. The bits that a last digit has too many do not
count.
-/

namespace WorkloadIdentity.Base64

/-- The digits in the order of their values. -/
def digits : List Char := "ABCDEFGHIJKLMNOPQRSTUVWXYZabcdefghijklmnopqrstuvwxyz0123456789+/".toList

/-- The padding that fills the last group. -/
def padding : UInt8 := 0x3D

def digit (value : Nat) : UInt8 := (digits.getD value 'A').val.toUInt8

/-- The value of a digit. -/
def value? (b : UInt8) : Option Nat :=
  if 0x41 ≤ b && b ≤ 0x5A then some (b.toNat - 0x41)
  else if 0x61 ≤ b && b ≤ 0x7A then some (b.toNat - 0x61 + 26)
  else if 0x30 ≤ b && b ≤ 0x39 then some (b.toNat - 0x30 + 52)
  else if b == 0x2B then some 62
  else if b == 0x2F then some 63
  else none

/-- Tab, line feed, carriage return and space. -/
def isBlank (b : UInt8) : Bool := b == 0x09 || b == 0x0A || b == 0x0D || b == 0x20

def encode : Bytes → Bytes
  | [] => []
  | [a] => [digit (a.toNat / 4), digit (a.toNat % 4 * 16), padding, padding]
  | [a, b] => [digit (a.toNat / 4), digit (a.toNat % 4 * 16 + b.toNat / 16),
      digit (b.toNat % 16 * 4), padding]
  | a :: b :: c :: rest =>
    digit (a.toNat / 4) :: digit (a.toNat % 4 * 16 + b.toNat / 16) ::
      digit (b.toNat % 16 * 4 + c.toNat / 64) :: digit (c.toNat % 64) :: encode rest

/-- The bytes that the values of digits make up. A single digit cannot end a text, since it has
too few bits for a byte. -/
def assemble? : List Nat → Option Bytes
  | [] => some []
  | [_] => none
  | [a, b] => some [UInt8.ofNat (a * 4 + b / 16)]
  | [a, b, c] => some [UInt8.ofNat (a * 4 + b / 16), UInt8.ofNat (b * 16 + c / 4)]
  | a :: b :: c :: d :: rest => do
    let bytes ← assemble? rest
    return UInt8.ofNat (a * 4 + b / 16) :: UInt8.ofNat (b * 16 + c / 4) ::
      UInt8.ofNat (c * 64 + d) :: bytes

/-- Padding that is right behind so many digits. -/
def isPadding (digits : Nat) (marks : Bytes) : Bool :=
  marks.isEmpty ||
    marks.all (· == padding) && marks.length ≤ 2 && (digits + marks.length) % 4 == 0

def decode? (text : Bytes) : Option Bytes :=
  let marks := text.filter (!isBlank ·)
  let body := marks.takeWhile (· != padding)
  if isPadding body.length (marks.dropWhile (· != padding)) then
    (body.mapM value?).bind assemble?
  else none

end WorkloadIdentity.Base64
