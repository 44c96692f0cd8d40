import WorkloadIdentity.Json.Basic

/-!
Reading JSON. `Json.parse` takes a whole body: one value with blanks around it and nothing else.
Only the spelling is checked here; the depth of nesting is not limited, and numbers are never too
large, since neither matters for what is skipped.
-/

namespace WorkloadIdentity.Json

/-- Space, tab, line feed and carriage return. -/
def isSpace (b : UInt8) : Bool := b == 0x20 || b == 0x09 || b == 0x0A || b == 0x0D

def skipSpace (bs : Bytes) : Bytes := bs.dropWhile isSpace

def isDigit (b : UInt8) : Bool := 0x30 ≤ b && b ≤ 0x39

/-- ASCII digits as characters. -/
def digitChars (bs : Bytes) : List Char := bs.map fun b => Char.ofNat b.toNat

/-- The rest of a text behind its opening quote, split at the closing one. Escapes are checked for
their spelling and kept as they are; control characters are refused. -/
def textBody : Bytes → Option (Bytes × Bytes)
  | [] => none
  | 0x22 :: rest => some ([], rest)
  | 0x5C :: 0x75 :: a :: b :: c :: d :: rest => do
    let _ ← hexQuad? a b c d
    let (raw, rest) ← textBody rest
    return (0x5C :: 0x75 :: a :: b :: c :: d :: raw, rest)
  | 0x5C :: b :: rest => do
    let _ ← escaped? b
    let (raw, rest) ← textBody rest
    return (0x5C :: b :: raw, rest)
  | b :: rest =>
    if b < 0x20 || b == 0x5C then none
    else do
      let (raw, rest) ← textBody rest
      return (b :: raw, rest)

/-- The part of a number behind its point, if it has one. -/
def fraction? : Bytes → Option (Option Bytes × Bytes)
  | 0x2E :: rest =>
    let ds := rest.takeWhile isDigit
    if ds.isEmpty then none else some (some ds, rest.dropWhile isDigit)
  | rest => some (none, rest)

/-- The exponent of a number, if it has one. -/
def exponent? : Bytes → Option (Option Int × Bytes)
  | e :: rest =>
    if e == 0x65 || e == 0x45 then
      let (negative, rest) : Bool × Bytes :=
        match rest with
        | 0x2B :: rest => (false, rest)
        | 0x2D :: rest => (true, rest)
        | rest => (false, rest)
      let ds := rest.takeWhile isDigit
      if ds.isEmpty then none
      else
        let n : Int := Decimal.valueOf (digitChars ds)
        some (some (if negative then -n else n), rest.dropWhile isDigit)
    else some (none, e :: rest)
  | [] => some (none, [])

/-- A number without its sign. A zero in front stands alone. -/
def unsigned (negative : Bool) (bs : Bytes) : Option (Json × Bytes) := do
  let whole := bs.takeWhile isDigit
  let rest := bs.dropWhile isDigit
  if whole.isEmpty || (whole.head? == some 0x30 && 1 < whole.length) then none
  let (fraction, rest) ← fraction? rest
  let (exponent, rest) ← exponent? rest
  let value := Decimal.ofParts negative (digitChars whole) (digitChars (fraction.getD []))
    (exponent.getD 0) (fraction.isNone && exponent.isNone)
  return (.number value, rest)

/-- The rest behind the given word, if the text starts with it. -/
def afterWord? (word : Bytes) (bs : Bytes) : Option Bytes :=
  if word.isPrefixOf bs then some (bs.drop word.length) else none

mutual

/-- A value at the front of the text, behind blanks. A level of nesting takes two units of fuel and
the bytes of two brackets, and every further item one unit and the byte of its comma, so the length
of the text is fuel enough. -/
def value : Nat → Bytes → Option (Json × Bytes)
  | 0, _ => none
  | fuel + 1, bs =>
    match skipSpace bs with
    | 0x22 :: rest => do
      let (raw, rest) ← textBody rest
      return (.text raw, rest)
    | 0x5B :: rest =>
      match skipSpace rest with
      | 0x5D :: rest => some (.array [], rest)
      | rest => do
        let (items, rest) ← items fuel rest
        return (.array items, rest)
    | 0x7B :: rest =>
      match skipSpace rest with
      | 0x7D :: rest => some (.object [], rest)
      | rest => do
        let (members, rest) ← members fuel rest
        return (.object members, rest)
    | 0x2D :: rest => unsigned true rest
    | 0x6E :: rest => (afterWord? [0x75, 0x6C, 0x6C] rest).map (.null, ·)
    | 0x74 :: rest => (afterWord? [0x72, 0x75, 0x65] rest).map (.bool true, ·)
    | 0x66 :: rest => (afterWord? [0x61, 0x6C, 0x73, 0x65] rest).map (.bool false, ·)
    | rest => unsigned false rest

/-- The items of a nonempty array up to its closing bracket. -/
def items : Nat → Bytes → Option (List Json × Bytes)
  | 0, _ => none
  | fuel + 1, bs => do
    let (item, rest) ← value fuel bs
    match skipSpace rest with
    | 0x2C :: rest =>
      let (others, rest) ← items fuel rest
      return (item :: others, rest)
    | 0x5D :: rest => return ([item], rest)
    | _ => none

/-- The members of a nonempty object up to its closing brace. -/
def members : Nat → Bytes → Option (List (Bytes × Json) × Bytes)
  | 0, _ => none
  | fuel + 1, bs => do
    let (name, rest) ←
      match skipSpace bs with
      | 0x22 :: rest => textBody rest
      | _ => none
    let (item, rest) ←
      match skipSpace rest with
      | 0x3A :: rest => value fuel rest
      | _ => none
    match skipSpace rest with
    | 0x2C :: rest =>
      let (others, rest) ← members fuel rest
      return ((name, item) :: others, rest)
    | 0x7D :: rest => return ([(name, item)], rest)
    | _ => none

end

/-- Reads a body that is one value. -/
def parse (bs : Bytes) : Option Json := do
  let (json, rest) ← value (bs.length + 1) bs
  if (skipSpace rest).isEmpty then return json else none

end WorkloadIdentity.Json
