import WorkloadIdentity.Number.Word
import WorkloadIdentity.Text.Blank
import WorkloadIdentity.Text.Segments
import WorkloadIdentity.Value

/-!
Settings from environment variables. A variable whose name begins with `AUTHN_`, in any letter
case, gives the setting behind that; two underscores lead into a record. Its value is spelled in a
small language: `true` and `false`, numbers, `"text"`, `'c'` for one character, `[a, b]` and
`{name = value}`; anything else is the text that it is, and so is a value of which a part makes no
sense.
-/

namespace WorkloadIdentity.Environment

/-! ### Values -/

/-- Space, tab, line feed, form feed and carriage return. -/
def isSpace (c : Char) : Bool :=
  c == ' ' || c == '\t' || c == '\n' || c == '\x0c' || c == '\r'

/-- Characters that a text without quotes may hold. -/
def isTextChar (c : Char) : Bool := !([',', '\x7b', '\x7d', '[', ']'].contains c)

/-- Characters of a name without quotes. -/
def isNameChar (c : Char) : Bool :=
  ('0' ≤ c && c ≤ '9') || ('A' ≤ c && c ≤ 'Z') || ('a' ≤ c && c ≤ 'z') || c == '_' || c == '-'

def skipSpace (cs : List Char) : List Char := cs.dropWhile isSpace

/-- What a letter behind a backslash stands for. -/
def escaped? (c : Char) : Option Char :=
  match c with
  | '"' => some '"'
  | '\\' => some '\\'
  | 'b' => some '\x08'
  | 'f' => some '\x0c'
  | 'n' => some '\n'
  | 'r' => some '\r'
  | 't' => some '\t'
  | _ => none

/-- The character of a code point in hexadecimal digits. -/
def codePoint? (digits : List Char) (count : Nat) : Option Char := do
  let values ← digits.mapM fun c =>
    (Json.hexDigit? (UInt8.ofNat c.toNat)).filter fun _ => c.toNat < 0x80
  let n := values.foldl (fun acc d => acc * 16 + d) 0
  if values.length = count && (n < 0xD800 || (0xDFFF < n && n ≤ 0x10FFFF)) then some (Char.ofNat n)
  else none

/-- The rest of a text behind its opening quote, split at the closing one. No line ends in it, and
it holds no controls but the tab. -/
def quotedText : (fuel : Nat) → List Char → Option (List Char × List Char)
  | 0, _ => none
  | fuel + 1, cs =>
    let add (c : Char) (rest : List Char) : Option (List Char × List Char) :=
      (quotedText fuel rest).map fun (text, rest) => (c :: text, rest)
    match cs with
    | [] => none
    | '"' :: rest => some ([], rest)
    | '\\' :: 'u' :: rest => do add (← codePoint? (rest.take 4) 4) (rest.drop 4)
    | '\\' :: 'U' :: rest => do add (← codePoint? (rest.take 8) 8) (rest.drop 8)
    | '\\' :: c :: rest => do add (← escaped? c) rest
    | c :: rest => if c == '\t' || (0x20 ≤ c.toNat && c.toNat ≠ 0x7F) then add c rest else none

/-- A whole number of 64 bits, or else the text that stands there. -/
def wholeValue (text : List Char) : Value :=
  match Text.readNat (word64 - 1) text, Text.readInt (signedWord64 - 1) text with
  | .ok n, _ => .int n
  | _, .ok 0 => .negativeZero
  | _, .ok i => .int i
  | _, _ => .text (String.ofList text)

/-- The value of a text without quotes: a number if it is one. One with a point is a
floating-point number. -/
def bareValue (cs : List Char) : Value :=
  let text := Text.trim cs
  if text.contains '.' then
    match Decimal.parse? text with
    | some d => .float (Floating.ofDecimal .double d)
    | none => wholeValue text
  else wholeValue text

/-- A name in front of an equals sign. -/
def name? (cs : List Char) : Option (String × List Char) :=
  let found :=
    match skipSpace cs with
    | '"' :: rest => quotedText (rest.length + 1) rest
    | cs =>
      let name := cs.takeWhile isNameChar
      if name.isEmpty then none else some (name, cs.dropWhile isNameChar)
  match found with
  | none => none
  | some (name, rest) =>
    match skipSpace rest with
    | '=' :: rest => some (String.ofList name, rest)
    | _ => none

mutual

/-- A value at the front of the text, with the spaces around it. Every two calls take at least one
character, so twice the length of the text is fuel enough. -/
def value : (fuel : Nat) → List Char → Option (Value × List Char)
  | 0, _ => none
  | fuel + 1, cs => do
    let cs := skipSpace cs
    let (found, rest) ←
      match Text.after? "true".toList cs, Text.after? "false".toList cs with
      | some rest, _ => some (Value.bool true, rest)
      | _, some rest => some (.bool false, rest)
      | _, _ =>
        match cs with
        | '\x7b' :: rest =>
          (fields fuel rest).map fun (fs, rest) => (.record (Fields.ofList fs), rest)
        | '[' :: rest => (items fuel rest).map fun (vs, rest) => (.list vs, rest)
        | '"' :: rest =>
          (quotedText (rest.length + 1) rest).map fun (text, rest) =>
            (.text (String.ofList text), rest)
        | '\'' :: c :: '\'' :: rest => some (.char c, rest)
        | '\'' :: _ => none
        | cs => some (bareValue (cs.takeWhile isTextChar), cs.dropWhile isTextChar)
    return (found, skipSpace rest)

/-- The items of a list up to its end; a comma may stand in front of that. -/
def items : (fuel : Nat) → List Char → Option (List Value × List Char)
  | 0, _ => none
  | fuel + 1, cs =>
    match cs with
    | ']' :: rest => some ([], rest)
    | cs => do
      let (item, rest) ← value fuel cs
      match rest with
      | ',' :: rest =>
        let (others, rest) ← items fuel rest
        return (item :: others, rest)
      | ']' :: rest => return ([item], rest)
      | _ => none

/-- The fields of a record up to its end; a comma may stand in front of that. -/
def fields : (fuel : Nat) → List Char → Option (List (String × Value) × List Char)
  | 0, _ => none
  | fuel + 1, cs =>
    match cs with
    | '\x7d' :: rest => some ([], rest)
    | cs => do
      let (name, rest) ← name? cs
      let (found, rest) ← value fuel rest
      match rest with
      | ',' :: rest =>
        let (others, rest) ← fields fuel rest
        return ((name, found) :: others, rest)
      | '\x7d' :: rest => return ([(name, found)], rest)
      | _ => none

end

/-- The value that a variable spells. -/
def parse (raw : String) : Value :=
  let text := Text.trim raw.toList
  match value (2 * text.length + 2) text with
  | some (found, []) => found
  | _ => .text (String.ofList text)

/-! ### Names -/

/-- What the names of variables begin with. -/
def beginning : List Char := "AUTHN_".toList

/-- Points in the place of pairs of underscores. -/
def splitMarks : List Char → List Char
  | '_' :: '_' :: rest => '.' :: splitMarks rest
  | c :: rest => c :: splitMarks rest
  | [] => []

/-- The setting that a variable is for, as the names that lead to it. -/
def path? (name : String) : Option (List String) :=
  let name := Text.trim name.toList
  if (name.take beginning.length).map Char.toUpper == beginning then
    let key := Text.trim (splitMarks (name.drop beginning.length))
    let parts := Text.splitOn '.' (key.map Char.toLower)
    if parts.all (!·.isEmpty) then some (parts.map String.ofList) else none
  else none

/-- A value under the names that lead to it. -/
def nest (path : List String) (value : Value) : Value :=
  path.foldr (fun name value => .record [(name, value)]) value

/-- The settings that variables give, as a record. Of two variables for one setting the later
counts. -/
def read (vars : List (String × String)) : Value :=
  vars.foldl (fun found (name, raw) =>
    match path? name with
    | some path => found.overlay (nest path (parse raw))
    | none => found) (.record [])

end WorkloadIdentity.Environment
