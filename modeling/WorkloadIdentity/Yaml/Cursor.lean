/-!
Places in a YAML text. A cursor knows its line and column, since both mean something in YAML: the
column is the indentation, and a key does not go on over the end of its line.
-/

namespace WorkloadIdentity.Yaml

/-- The characters that end a line. -/
def isBreak (c : Char) : Bool :=
  c == '\r' || c == '\n' || c == '\u0085' || c == '\u2028' || c == '\u2029'

def isBlank (c : Char) : Bool := c == ' ' || c == '\t'

/-- The byte order mark. -/
def byteOrderMark : Char := '\uFEFF'

/-- The characters that a text may hold: no controls besides the tab and the line ends. -/
def isAllowed (c : Char) : Bool :=
  let n := c.toNat
  n == 0x09 || n == 0x0A || n == 0x0D || (0x20 ≤ n && n ≤ 0x7E) || n == 0x85 ||
    (0xA0 ≤ n && n ≤ 0xFFFD) || 0x10000 ≤ n

/-- A place in a text, with what follows it. -/
structure Cursor where
  rest : List Char
  index : Nat
  line : Nat
  column : Nat

namespace Cursor

/-- The beginning of a text. A byte order mark there is no part of it. -/
def start (text : List Char) : Cursor :=
  let rest := if text.head? == some byteOrderMark then text.drop 1 else text
  { rest, index := 0, line := 0, column := 0 }

def head? (c : Cursor) : Option Char := c.rest.head?

def isAt (c : Cursor) (char : Char) : Bool := c.rest.head? == some char

def atEnd (c : Cursor) : Bool := c.rest.isEmpty

/-- Whether the character that follows after `ahead` others satisfies `p`. -/
def holds (c : Cursor) (p : Char → Bool) (ahead : Nat) : Bool := (c.rest[ahead]?).any p

/-- Whether a line ends after `ahead` characters. -/
def endsLine (c : Cursor) (ahead : Nat) : Bool := ((c.rest[ahead]?).map isBreak).getD true

/-- Whether a blank follows after `ahead` characters, or a line ends. -/
def atGap (c : Cursor) (ahead : Nat) : Bool :=
  ((c.rest[ahead]?).map fun x => isBreak x || isBlank x).getD true

/-- Goes over characters of a line. -/
def skip (c : Cursor) (count : Nat) : Cursor :=
  { c with rest := c.rest.drop count, index := c.index + count, column := c.column + count }

/-- The characters of the line from here on that satisfy `p`, and the place behind them. -/
def take (c : Cursor) (p : Char → Bool) : List Char × Cursor :=
  let taken := c.rest.takeWhile p
  (taken, c.skip taken.length)

def dropBlanks (c : Cursor) : Cursor := (c.take isBlank).2

/-- Goes to the end of the line if a comment begins here. -/
def dropComment (c : Cursor) : Cursor :=
  if c.isAt '#' then (c.take fun x => !isBreak x).2 else c

/-- The line end that begins here, as it is kept in a text, and the beginning of the next line. -/
def readBreak (c : Cursor) : List Char × Cursor :=
  let next (rest : List Char) (count : Nat) : Cursor :=
    { rest, index := c.index + count, line := c.line + 1, column := 0 }
  match c.rest with
  | '\r' :: '\n' :: rest => (['\n'], next rest 2)
  | x :: rest =>
    if x == '\u2028' || x == '\u2029' then ([x], next rest 1)
    else if isBreak x then (['\n'], next rest 1)
    else ([], c)
  | [] => ([], c)

def dropBreak (c : Cursor) : Cursor := c.readBreak.2

/-- Three hyphens or three points alone at the beginning of a line. -/
def atDocumentMark (c : Cursor) : Bool :=
  c.column == 0 && (c.rest.take 3 == ['-', '-', '-'] || c.rest.take 3 == ['.', '.', '.']) &&
    c.atGap 3

end Cursor

end WorkloadIdentity.Yaml
