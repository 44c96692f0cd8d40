import WorkloadIdentity.Number.Decimal
import WorkloadIdentity.Text.Utf8
import WorkloadIdentity.Yaml.Scalar

/-!
The marks and texts of a YAML file in their order, with a mark at each place where a block begins
or ends. Blocks are told by the column alone, so most of what is kept while reading is about
columns: the indentation of the blocks around, and the places at which a key may have begun. That
a key did begin is known only when its colon is met, and its mark is put in front of it then.
-/

namespace WorkloadIdentity.Yaml

inductive Token where
  | version (major minor : Nat)
  /-- What tags that begin with `handle` stand for. -/
  | tagHandle (handle : List Char) (beginning : Bytes)
  | documentStart
  | documentEnd
  | blockSequenceStart
  | blockMappingStart
  | blockEnd
  | flowSequenceStart
  | flowSequenceEnd
  | flowMappingStart
  | flowMappingEnd
  | blockEntry
  | flowEntry
  | key
  | value
  | alias (name : List Char)
  | anchor (name : List Char)
  | tag (handle : List Char) (suffix : Bytes)
  | scalar (plain : Bool) (text : List Char)
deriving DecidableEq, Repr

/-! ### Tags, anchors and directives -/

def isNameChar (c : Char) : Bool :=
  ('0' ≤ c && c ≤ '9') || ('A' ≤ c && c ≤ 'Z') || ('a' ≤ c && c ≤ 'z') || c == '_' || c == '-'

/-- A name behind `&` or `*`. -/
def readName (c : Cursor) : Option (List Char × Cursor) :=
  let (name, c) := (c.skip 1).take isNameChar
  let isEnd (x : Char) : Bool := ['?', ':', ',', ']', '\x7d', '%', '@', '\x60'].contains x
  if !name.isEmpty && (c.atGap 0 || c.holds isEnd 0) then some (name, c) else none

def isTagChar (verbatim : Bool) (c : Char) : Bool :=
  isNameChar c || ";/?:@&=+$.%!~*'()".toList.contains c ||
    (verbatim && [',', '[', ']'].contains c)

/-- How many bytes the UTF-8 form of a character has, from its first byte. -/
def sequenceLength? (b : UInt8) : Option Nat :=
  if b < 0x80 then some 1
  else if 0xC0 ≤ b && b < 0xE0 then some 2
  else if 0xE0 ≤ b && b < 0xF0 then some 3
  else if 0xF0 ≤ b && b < 0xF8 then some 4
  else none

/-- Bytes of a tag, of which escapes give whole characters; `more` counts the bytes that the
current character lacks. -/
def tagBytes : (more : Nat) → List Char → Option Bytes
  | 0, [] => some []
  | _, [] => none
  | 0, '%' :: a :: b :: rest => do
    let byte ← Url.escaped? a b
    let length ← sequenceLength? byte
    return byte :: (← tagBytes (length - 1) rest)
  | more + 1, '%' :: a :: b :: rest => do
    let byte ← Url.escaped? a b
    if 0x80 ≤ byte && byte < 0xC0 then return byte :: (← tagBytes more rest) else none
  | more, c :: rest =>
    if c == '%' || more ≠ 0 then none else return String.utf8EncodeChar c ++ (← tagBytes 0 rest)

/-- The characters of a tag, behind a beginning that has been read. -/
def readTagText (verbatim : Bool) (beginning : List Char) (c : Cursor) :
    Option (Bytes × Cursor) := do
  let (text, c) := c.take (isTagChar verbatim)
  if beginning.isEmpty && text.isEmpty then none
  let bytes ← tagBytes 0 text
  return (Utf8.encode (beginning.drop 1) ++ bytes, c)

/-- An exclamation mark, a name, and if there is one a second mark. -/
def readHandle (c : Cursor) : Option (List Char × Cursor) :=
  if c.isAt '!' then
    let (name, c) := (c.skip 1).take isNameChar
    if c.isAt '!' then some ('!' :: name ++ ['!'], c.skip 1) else some ('!' :: name, c)
  else none

/-- A tag as its handle and the rest; the handle is empty where the rest is all there is to it. -/
def readTag (flow : Bool) (c : Cursor) : Option (Token × Cursor) := do
  let (handle, suffix, c) ←
    if c.holds (· == '<') 1 then do
      let (suffix, c) ← readTagText true [] (c.skip 2)
      if c.isAt '>' then pure (([] : List Char), suffix, c.skip 1) else none
    else do
      let (handle, c) ← readHandle c
      if 1 < handle.length && handle.getLast? == some '!' then
        let (suffix, c) ← readTagText false [] c
        pure (handle, suffix, c)
      else
        let (suffix, c) ← readTagText false handle c
        pure (if suffix.isEmpty then ([], Utf8.encode ['!'], c) else (['!'], suffix, c))
  if (flow && c.isAt ',') || c.atGap 0 then some (.tag handle suffix, c) else none

/-- A number of at most nine digits. -/
def readVersionNumber (c : Cursor) : Option (Nat × Cursor) :=
  let (digits, c) := c.take fun x => '0' ≤ x && x ≤ '9'
  if digits.isEmpty || 9 < digits.length then none else some (Decimal.valueOf digits, c)

/-- A directive with the rest of its line. -/
def readDirective (c : Cursor) : Option (Token × Cursor) := do
  let (name, c) := (c.skip 1).take isNameChar
  if !c.atGap 0 then none
  let (token, c) ←
    if name = "YAML".toList then do
      let (major, c) ← readVersionNumber c.dropBlanks
      if !c.isAt '.' then none
      let (minor, c) ← readVersionNumber (c.skip 1)
      pure (Token.version major minor, c)
    else if name = "TAG".toList then do
      let (handle, c) ← readHandle c.dropBlanks
      if handle.length ≠ 1 && handle.getLast? != some '!' then none
      if !c.holds isBlank 0 then none
      let (beginning, c) ← readTagText true [] c.dropBlanks
      if !c.atGap 0 then none
      pure (Token.tagHandle handle beginning, c)
    else none
  let c := c.dropBlanks.dropComment
  if c.endsLine 0 then some (token, c.dropBreak) else none

/-! ### The sequence of tokens -/

/-- A place at which a key may have begun. -/
structure KeyPlace where
  /-- How many tokens stand before it. -/
  tokens : Nat
  index : Nat
  line : Nat
  column : Nat
  /-- Nothing but a key can stand there. -/
  required : Bool

/-- Where the reading of tokens stands. -/
structure Reading where
  cursor : Cursor
  tokens : List Token
  /-- The column of the block that is being read; below zero outside all blocks. -/
  indent : Int
  outer : List Int
  /-- A key may begin here. -/
  keyAllowed : Bool
  /-- The place of the last possible key, for this level of brackets and for those around it. -/
  place : Option KeyPlace
  places : List (Option KeyPlace)

namespace Reading

def start (text : List Char) : Reading where
  cursor := .start text
  tokens := []
  indent := -1
  outer := []
  keyAllowed := true
  place := none
  places := []

/-- Inside brackets. -/
def inFlow (r : Reading) : Bool := !r.places.isEmpty

def push (r : Reading) (token : Token) : Reading := { r with tokens := r.tokens ++ [token] }

/-- Puts a token in front of those that follow the first `position`. -/
def insert (r : Reading) (position : Nat) (token : Token) : Reading :=
  { r with tokens := r.tokens.take position ++ token :: r.tokens.drop position }

/-- Goes to the next token, over blanks, comments and line ends. A tab is no indentation. -/
def toNext : (fuel : Nat) → Reading → Reading
  | 0, r => r
  | fuel + 1, r =>
    let c := r.cursor
    let c := if c.column == 0 && c.isAt byteOrderMark then c.skip 1 else c
    let (_, c) := c.take fun x => x == ' ' || ((r.inFlow || !r.keyAllowed) && x == '\t')
    let c := c.dropComment
    if c.holds isBreak 0 then
      toNext fuel { r with cursor := c.dropBreak, keyAllowed := r.keyAllowed || !r.inFlow }
    else { r with cursor := c }

/-- Gives a place up at which no key can begin any more. -/
def giveUp (p : Option KeyPlace) : Option (Option KeyPlace) :=
  match p with
  | some place => if place.required then none else some none
  | none => some none

/-- A key stands in one line and has at most `1024` characters. -/
def isStale (c : Cursor) (place : KeyPlace) : Bool :=
  place.line < c.line || place.index + 1024 < c.index

def dropStale (r : Reading) : Option Reading := do
  let check (p : Option KeyPlace) : Option (Option KeyPlace) :=
    if p.any (isStale r.cursor) then giveUp p else some p
  return { r with place := ← check r.place, places := ← r.places.mapM check }

/-- Forgets the last possible key. -/
def dropPlace (r : Reading) : Option Reading := do
  return { r with place := ← giveUp r.place }

/-- Notes that a key may begin here, if one may. -/
def savePlace (r : Reading) : Option Reading :=
  if r.keyAllowed then do
    let r ← r.dropPlace
    let place : KeyPlace := {
      tokens := r.tokens.length, index := r.cursor.index, line := r.cursor.line
      column := r.cursor.column
      required := !r.inFlow && r.indent == (r.cursor.column : Int) }
    return { r with place := some place }
  else some r

/-- Begins a block if the column is further in than the block around. -/
def roll (r : Reading) (column position : Nat) (token : Token) : Reading :=
  if !r.inFlow && r.indent < (column : Int) then
    { r with indent := column, outer := r.indent :: r.outer }.insert position token
  else r

/-- Ends the blocks that are further in than the column. -/
def unrollTo (column : Int) : (outer : List Int) → Reading → Reading
  | [], r => r
  | indent :: outer, r =>
    if column < r.indent then
      unrollTo column outer
        { r with indent, outer, tokens := r.tokens ++ [.blockEnd] }
    else r

def unroll (r : Reading) (column : Int) : Reading :=
  if r.inFlow then r else unrollTo column r.outer r

/-- Goes over the characters of a token. -/
def take (r : Reading) (token : Token) (count : Nat) : Reading :=
  { r with cursor := r.cursor.skip count }.push token

def openFlow (r : Reading) (token : Token) : Option Reading := do
  let r ← r.savePlace
  return { r with place := none, places := r.place :: r.places, keyAllowed := true }.take token 1

def closeFlow (r : Reading) (token : Token) : Option Reading := do
  let r ← r.dropPlace
  let r :=
    match r.places with
    | place :: places => { r with place, places }
    | [] => r
  return { r with keyAllowed := false }.take token 1

def flowEntry (r : Reading) : Option Reading := do
  let r ← r.dropPlace
  return { r with keyAllowed := true }.take .flowEntry 1

def blockEntry (r : Reading) : Option Reading := do
  if !r.inFlow && !r.keyAllowed then none
  let r := r.roll r.cursor.column r.tokens.length .blockSequenceStart
  let r ← r.dropPlace
  return { r with keyAllowed := true }.take .blockEntry 1

def explicitKey (r : Reading) : Option Reading := do
  if !r.inFlow && !r.keyAllowed then none
  let r := r.roll r.cursor.column r.tokens.length .blockMappingStart
  let r ← r.dropPlace
  return { r with keyAllowed := !r.inFlow }.take .key 1

/-- The colon behind a key. The mark of the key goes to the place where the key began, and so does
that of its block. -/
def value (r : Reading) : Option Reading :=
  match r.place with
  | some place =>
    let r := (r.insert place.tokens .key).roll place.column place.tokens .blockMappingStart
    some ({ r with place := none, keyAllowed := false }.take .value 1)
  | none => do
    if !r.inFlow && !r.keyAllowed then none
    let r := r.roll r.cursor.column r.tokens.length .blockMappingStart
    return { r with keyAllowed := !r.inFlow }.take .value 1

/-- A token at which a key may begin. -/
def atom (r : Reading) (read : Cursor → Option (Token × Cursor)) : Option Reading := do
  let r ← r.savePlace
  let (token, cursor) ← read r.cursor
  return { r with cursor, keyAllowed := false }.push token

def quoted (r : Reading) (single : Bool) : Option Reading :=
  r.atom fun c => do
    let (text, c) ← quotedFrom single (c.rest.length + 1) [] (c.skip 1)
    return (.scalar false text, c)

def plain (r : Reading) : Option Reading := do
  let r ← r.savePlace
  let (text, ended, cursor) ←
    plainFrom r.inFlow (r.indent + 1) (r.cursor.rest.length + 1) [] ⟨[], none, []⟩ r.cursor
  return { r with cursor, keyAllowed := ended }.push (.scalar true text)

def block (r : Reading) (literal : Bool) : Option Reading := do
  let r ← r.dropPlace
  let (text, cursor) ← Yaml.block literal r.indent (r.cursor.skip 1)
  return { r with cursor, keyAllowed := true }.push (.scalar false text)

/-- A line of its own: a directive or a document mark. -/
def ownLine (r : Reading) (read : Cursor → Option (Token × Cursor)) : Option Reading := do
  let r ← (r.unroll (-1)).dropPlace
  let (token, cursor) ← read r.cursor
  return { r with cursor, keyAllowed := false }.push token

/-- Whether a plain text can begin here. Indicators begin none, but for `-`, and outside brackets
`?` and `:`, in front of a character that is no blank. -/
def startsPlain (r : Reading) : Bool :=
  let c := r.cursor
  match c.head? with
  | none => false
  | some x =>
    !(c.atGap 0 || "-?:,[]\x7b\x7d#&*!|>'\"%@\x60".toList.contains x) ||
      (x == '-' && !c.holds isBlank 1) ||
      (!r.inFlow && (x == '?' || x == ':') && !c.atGap 1)

/-- Reads the token that begins here. -/
def step (r : Reading) : Option Reading :=
  let c := r.cursor
  match c.head? with
  | none => none
  | some x =>
    let marked := r.inFlow || c.atGap 1
    if c.column == 0 && x == '%' then r.ownLine readDirective
    else if c.atDocumentMark then
      r.ownLine fun c => some (if x == '-' then .documentStart else .documentEnd, c.skip 3)
    else if x == '[' then r.openFlow .flowSequenceStart
    else if x == '\x7b' then r.openFlow .flowMappingStart
    else if x == ']' then r.closeFlow .flowSequenceEnd
    else if x == '\x7d' then r.closeFlow .flowMappingEnd
    else if x == ',' then r.flowEntry
    else if x == '-' && c.atGap 1 then r.blockEntry
    else if x == '?' && marked then r.explicitKey
    else if x == ':' && marked then r.value
    else if x == '*' then r.atom fun c => (readName c).map fun (name, c) => (.alias name, c)
    else if x == '&' then r.atom fun c => (readName c).map fun (name, c) => (.anchor name, c)
    else if x == '!' then r.atom (readTag r.inFlow)
    else if x == '|' && !r.inFlow then r.block true
    else if x == '>' && !r.inFlow then r.block false
    else if x == '\'' then r.quoted true
    else if x == '"' then r.quoted false
    else if r.startsPlain then r.plain
    else none

/-- Reads to the end of the text. -/
def toEnd : (fuel : Nat) → Reading → Option (List Token)
  | 0, _ => none
  | fuel + 1, r => do
    let r ← (r.toNext (r.cursor.rest.length + 1)).dropStale
    let r := r.unroll r.cursor.column
    if r.cursor.atEnd then
      let r ← (r.unroll (-1)).dropPlace
      return r.tokens
    else toEnd fuel (← r.step)

end Reading

/-- The tokens of a text. -/
def tokens? (text : List Char) : Option (List Token) :=
  if text.all isAllowed then Reading.toEnd (text.length + 2) (.start text) else none

end WorkloadIdentity.Yaml
