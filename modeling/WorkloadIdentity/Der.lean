import WorkloadIdentity.Number.Word
import WorkloadIdentity.Text.Decimal
import WorkloadIdentity.Text.Segments
import WorkloadIdentity.Text.Utf8

/-!
Elements of binary structures: a tag, a length and a content. `Der.element` takes every form of a
definite length; `Element.isCanonical` says that an element has the shortest form and stays below
the size that a trust pool accepts. A reading of a structure is a function on the bytes that are
left.
-/

namespace WorkloadIdentity

/-! ### Object identifiers -/

/-- The arcs of an object identifier, at least two of them. -/
abbrev Oid := List Nat

namespace Oid

/-- The digits of a number to the base 128, all but the last one marked; there are at most as many
as `fuel`. -/
def base128 (fuel n : Nat) : Bytes :=
  match fuel with
  | 0 => []
  | fuel + 1 =>
    let last := UInt8.ofNat (n % 128)
    if n < 128 then [last]
    else (base128 fuel (n / 128)).map (· ||| 0x80) ++ [last]

/-- The content of the element of an identifier. The first two arcs share a number. -/
def content : Oid → Bytes
  | first :: second :: rest =>
    let number := 40 * first + second
    base128 number.succ number ++ rest.flatMap fun arc => base128 arc.succ arc
  | _ => []

/-- The arcs with points between them. -/
def dotted (oid : Oid) : String := String.ofList (Text.join ['.'] (oid.map Text.digits))

end Oid

namespace Der

/-! ### Elements -/

inductive TagClass where
  | universal
  | application
  | context
  | own
deriving DecidableEq, Repr

structure Tag where
  kind : TagClass
  constructed : Bool
  number : Nat
deriving DecidableEq, Repr

structure Element where
  tag : Tag
  /-- The bytes that the tag and the length take. -/
  header : Nat
  content : Bytes
deriving DecidableEq, Repr

/-! The numbers of universal tags. -/

namespace Tag

def boolean : Nat := 1
def integer : Nat := 2
def bitString : Nat := 3
def octetString : Nat := 4
def identifier : Nat := 6
def utf8String : Nat := 12
def sequence : Nat := 16
def set : Nat := 17
def numericString : Nat := 18
def printableString : Nat := 19
def asciiString : Nat := 22
def shortTime : Nat := 23
def longTime : Nat := 24

end Tag

/-- A reading of some of the bytes, which leaves the others. -/
abbrev Reading (α : Type) := StateT Bytes Option α

variable {α : Type}

def ofOption : Option α → Reading α
  | some a => pure a
  | none => failure

def byte : Reading UInt8 := do
  match ← get with
  | [] => failure
  | b :: rest =>
    set rest
    return b

/-- So many bytes, if there are as many. -/
def bytes (count : Nat) : Reading Bytes := do
  let all ← get
  guard (count ≤ all.length)
  set (all.drop count)
  return all.take count

def atEnd : Reading Bool := do return (← get).isEmpty

/-- A big-endian number. -/
def number (bs : Bytes) : Nat := bs.foldl (fun n b => n * 256 + b.toNat) 0

/-- A tag number in digits to the base 128, of at most as many bytes as `fuel`. -/
def longNumber : (fuel : Nat) → (acc : Nat) → Reading Nat
  | 0, _ => failure
  | fuel + 1, acc => do
    let b ← byte
    let acc := (acc * 128 + b.toNat % 128) % word32
    if b < 0x80 then return acc else longNumber fuel acc

def tag : Reading Tag := do
  let first ← byte
  let kind : TagClass :=
    match first.toNat / 64 with
    | 0 => .universal
    | 1 => .application
    | 2 => .context
    | _ => .own
  let low := first.toNat % 32
  let number ← if low = 31 then longNumber 5 0 else pure low
  return { kind, constructed := first.toNat / 32 % 2 = 1, number }

/-- A definite length. The long form may have leading zeros, but the value fits into eight
bytes. -/
def length : Reading Nat := do
  let first ← byte
  if first < 0x80 then return first.toNat
  else if first = 0x80 ∨ first = 0xFF then failure
  else
    let value := number (← bytes (first.toNat - 0x80))
    guard (value < word64)
    return value

def element : Reading Element := do
  let before := (← get).length
  let tag ← tag
  let length ← length
  let header := before - (← get).length
  return { tag, header, content := ← bytes length }

/-- An element with a tag of this number, whatever its class is. -/
def numbered (number : Nat) : Reading Element := do
  let e ← element
  guard (e.tag.number = number)
  return e

/-- The beginning of a content, read by `reading`; what is behind it does not count. -/
def Element.inside (e : Element) (reading : Reading α) : Reading α :=
  ofOption ((reading.run e.content).map (·.1))

/-- The whole of a text, read by `reading`. -/
def whole (text : Bytes) (reading : Reading α) : Option α :=
  match reading.run text with
  | some (a, []) => some a
  | _ => none

/-- Readings one after the other, until one fails. At most `fuel` of them are made. -/
def manyUpTo (reading : Reading α) : (fuel : Nat) → Reading (List α)
  | 0 => return []
  | fuel + 1 => fun text =>
    match reading.run text with
    | none => some ([], text)
    | some (a, rest) => (manyUpTo reading fuel rest).map fun (as, rest) => (a :: as, rest)

/-- As many readings as there are; none of them may be empty. -/
def many (reading : Reading α) : Reading (List α) :=
  fun text => manyUpTo reading text.length text

/-- The content of a bit string: the bits that the last byte has too many are zero. -/
def bits (e : Element) : Reading Bytes := do
  guard (!e.tag.constructed)
  match e.content with
  | [] => failure
  | [unused] => if unused = 0 then return [] else failure
  | unused :: rest =>
    guard ((rest.getLastD 0).toNat % Nat.pow 2 unused.toNat = 0 ∧ unused ≤ 8)
    return rest

/-- A number that is not negative, in the fewest bytes. -/
def naturalOf? : Bytes → Option Nat
  | [] => none
  | [b] => if b < 0x80 then some b.toNat else none
  | first :: second :: rest =>
    if first = 0 ∧ second < 0x80 ∨ 0x80 ≤ first then none
    else some (number (first :: second :: rest))

/-! ### Canonical form -/

/-- The largest content that a trust pool takes. -/
def maxContent : Nat := 0xFFFE

/-- The tag has one byte and the length the fewest that it can. -/
def Element.isCanonical (e : Element) : Bool :=
  let size := e.content.length
  size ≤ maxContent &&
    e.header == if size < 0x80 then 2 else if size < 0x100 then 3 else 4

end Der

end WorkloadIdentity
