/-!
UTF-8. `encode` writes code points as bytes. `decode?` reads bytes that are valid UTF-8 and
refuses all others; `decodeLossy` reads any bytes and puts one replacement character for each
maximal ill-formed part: a lead byte together with the continuation bytes that could still have
followed it.
-/

namespace WorkloadIdentity

/-- Bytes of a file, a message body or an encoded structure. -/
abbrev Bytes := List UInt8

end WorkloadIdentity

namespace WorkloadIdentity.Utf8

def encode (cs : List Char) : Bytes := cs.flatMap String.utf8EncodeChar

/-- What a lead byte asks for: the number of continuation bytes, the bits that it carries itself,
and the range of the first continuation byte. The later ones range over `80` to `BF`. -/
structure Lead where
  more : Nat
  bits : Nat
  low : UInt8
  high : UInt8

/-- The lead bytes of sequences of two to four bytes. The ranges leave out overlong forms,
surrogates and code points above `10FFFF`. -/
def lead? (b : UInt8) : Option Lead :=
  if b < 0xC2 then none
  else if b < 0xE0 then some ⟨1, b.toNat - 0xC0, 0x80, 0xBF⟩
  else if b == 0xE0 then some ⟨2, 0, 0xA0, 0xBF⟩
  else if b == 0xED then some ⟨2, 0xD, 0x80, 0x9F⟩
  else if b < 0xF0 then some ⟨2, b.toNat - 0xE0, 0x80, 0xBF⟩
  else if b == 0xF0 then some ⟨3, 0, 0x90, 0xBF⟩
  else if b < 0xF4 then some ⟨3, b.toNat - 0xF0, 0x80, 0xBF⟩
  else if b == 0xF4 then some ⟨3, 4, 0x80, 0x8F⟩
  else none

/-- One piece read from the front: a character, or an ill-formed part of the stated length. -/
inductive Piece where
  | char (c : Char) (length : Nat)
  | broken (length : Nat)

/-- `more` continuation bytes on top of the bits `acc`; `seen` bytes precede them. -/
def continuation (acc : Nat) (low high : UInt8) (seen : Nat) : Nat → Bytes → Piece
  | 0, _ => .char (Char.ofNat acc) seen
  | _ + 1, [] => .broken seen
  | more + 1, b :: rest =>
    if low ≤ b && b ≤ high then
      continuation (acc * 64 + (b.toNat - 0x80)) 0x80 0xBF (seen + 1) more rest
    else .broken seen

/-- The first piece of a nonempty text, given its first byte and the others. -/
def piece (b : UInt8) (rest : Bytes) : Piece :=
  if b < 0x80 then .char (Char.ofNat b.toNat) 1
  else
    match lead? b with
    | none => .broken 1
    | some l => continuation l.bits l.low l.high 1 l.more rest

/-- Reads pieces until `fuel` runs out, which is the length of the input. -/
def pieces : Nat → Bytes → List Piece
  | 0, _ => []
  | _, [] => []
  | fuel + 1, b :: rest =>
    match piece b rest with
    | .char c n => .char c n :: pieces fuel (rest.drop (n - 1))
    | .broken n => .broken n :: pieces fuel (rest.drop (n - 1))

def decode? (bs : Bytes) : Option (List Char) :=
  (pieces bs.length bs).mapM fun
    | .char c _ => some c
    | .broken _ => none

def replacement : Char := '\uFFFD'

def decodeLossy (bs : Bytes) : List Char :=
  (pieces bs.length bs).map fun
    | .char c _ => c
    | .broken _ => replacement

/-- The bytes of a string. -/
def ofString (s : String) : Bytes := encode s.toList

def toString? (bs : Bytes) : Option String := (decode? bs).map String.ofList

def toStringLossy (bs : Bytes) : String := String.ofList (decodeLossy bs)

end WorkloadIdentity.Utf8
