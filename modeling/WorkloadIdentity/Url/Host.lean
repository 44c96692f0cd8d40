import WorkloadIdentity.Number.Decimal
import WorkloadIdentity.Url.Domain
import WorkloadIdentity.Url.Percent

/-!
Hosts of URLs. A text in brackets is an IPv6 address. Behind a special scheme any other text is a
name, and a name whose last label is a number has to be an IPv4 address, in any of the forms in
which such addresses have ever been written. Behind other schemes the text is kept as it is.
-/

namespace WorkloadIdentity.Url

/-! ### IPv4 -/

/-- A number of an IPv4 address: hexadecimal behind `0x`, octal behind `0`, and decimal
otherwise. -/
def ipv4Number? (cs : List Char) : Option Nat :=
  let read (radix : Nat) (ds : List Char) : Option Nat :=
    ds.foldlM (fun acc c => do
      let d ← hexValue? c
      if d < radix then some (acc * radix + d) else none) 0
  match cs with
  | [] => none
  | '0' :: 'x' :: ds | '0' :: 'X' :: ds => read 16 ds
  | ['0'] => some 0
  | '0' :: ds => read 8 ds
  | ds => read 10 ds

/-- The labels of a name, without an empty one at its end. -/
def labels (name : List Char) : List (List Char) :=
  let parts := Text.splitOn '.' name
  if parts.getLast? == some [] then parts.dropLast else parts

/-- Whether the last label of a name is a number, or as good as one. -/
def endsInNumber (name : List Char) : Bool :=
  match (labels name).getLast? with
  | none | some [] => false
  | some last => last.all (fun c => '0' ≤ c && c ≤ '9') || (ipv4Number? last).isSome

/-- The address that up to four numbers stand for: each but the last is one byte, and the last
fills the bytes that are left. -/
def ipv4OfNumbers? (numbers : List Nat) : Option Nat :=
  match numbers.reverse with
  | [] => none
  | last :: front =>
    let bytes := front.reverse
    if 3 < bytes.length || bytes.any (255 < ·) || Nat.pow 256 (4 - bytes.length) ≤ last then none
    else some (bytes.foldl (fun acc b => acc * 256 + b) 0 * Nat.pow 256 (4 - bytes.length) + last)

def parseIpv4 (name : List Char) : Except UrlFault Nat :=
  match (labels name).mapM ipv4Number? >>= ipv4OfNumbers? with
  | some address => .ok address
  | none => .error .invalidIpv4

/-! ### IPv6 -/

/-- One to four hexadecimal digits. -/
def ipv6Group? (cs : List Char) : Option Nat :=
  if cs.isEmpty || 4 < cs.length then none
  else cs.foldlM (fun acc c => (hexValue? c).map (acc * 16 + ·)) 0

/-- Four bytes in decimal, without zeros in front, as two groups. -/
def dottedGroups? (cs : List Char) : Option (List Nat) := do
  let bytes ← (Text.splitOn '.' cs).mapM fun part => do
    if part.isEmpty || 3 < part.length || (part.head? == some '0' && 1 < part.length) then none
    let n ← part.foldlM (fun acc c => (Text.digit? c).map (acc * 10 + ·)) 0
    if n ≤ 255 then some n else none
  match bytes with
  | [a, b, c, d] => some [a * 256 + b, c * 256 + d]
  | _ => none

/-- The groups between colons; the last of an address may be written as four bytes. -/
def ipv6Groups? (dotted : Bool) : List (List Char) → Option (List Nat)
  | [] => some []
  | [last] => (ipv6Group? last).map ([·]) <|> (if dotted then dottedGroups? last else none)
  | part :: parts => do return (← ipv6Group? part) :: (← ipv6Groups? dotted parts)

/-- A text cut at the first pair of colons. -/
def cutPair? : List Char → Option (List Char × List Char)
  | ':' :: ':' :: rest => some ([], rest)
  | c :: rest => (cutPair? rest).map fun (before, after) => (c :: before, after)
  | [] => none

def parseIpv6 (cs : List Char) : Except UrlFault (List Nat) :=
  let side (dotted : Bool) (cs : List Char) : Option (List Nat) :=
    if cs.isEmpty then some [] else ipv6Groups? dotted (Text.splitOn ':' cs)
  let pieces : Option (List Nat) :=
    match cutPair? cs with
    | none => do
      let all ← side true cs
      if all.length = 8 then some all else none
    | some (before, after) => do
      let left ← side false before
      let right ← side true after
      let found := left.length + right.length
      if found ≤ 7 then some (left ++ List.replicate (8 - found) 0 ++ right) else none
  match pieces with
  | some ps => .ok ps
  | none => .error .invalidIpv6

/-! ### Any host -/

/-- The inside of brackets around an address. -/
def bracketed (cs : List Char) : Except UrlFault Host :=
  if cs.getLast? == some ']' then (parseIpv6 (cs.drop 1).dropLast).map .ipv6
  else .error .invalidIpv6

/-- The host of a special scheme. -/
def parseHost (cs : List Char) : Except UrlFault Host :=
  if cs.head? == some '[' then bracketed cs
  else
    match Utf8.decode? (decode cs) with
    | none => .error .invalidName
    | some text => do
      let name ← Domain.parse text
      if name.isEmpty then .error .emptyHost
      else if endsInNumber name then (parseIpv4 name).map .ipv4
      else .ok (.name name)

/-- Characters that end a host or that no host has. -/
def isForbiddenInHost (c : Char) : Bool :=
  ['\x00', '\t', '\n', '\r', ' ', '#', '/', ':', '<', '>', '?', '@', '[', '\\', ']', '^',
    '|'].contains c

/-- The host of any other scheme; it may be empty. -/
def parsePlainHost (cs : List Char) : Except UrlFault Host :=
  if cs.head? == some '[' then bracketed cs
  else if cs.any isForbiddenInHost then .error .invalidHostCharacter
  else .ok (.name (percentEncode isControl cs))

end WorkloadIdentity.Url
