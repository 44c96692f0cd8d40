import WorkloadIdentity.Text.Composition
import WorkloadIdentity.Url.Basic
import WorkloadIdentity.Url.Direction
import WorkloadIdentity.Url.Joiner
import WorkloadIdentity.Url.NameTable
import WorkloadIdentity.Url.Punycode

/-!
Names of hosts. Each character of a name is dropped, refused, replaced or kept, as the table of
`NameTable` says, and the text is composed. Then each label is checked. A label that begins with
`xn--` has to decode to one that could have been written in its place, and what is beyond ASCII is
written in that form.
-/

namespace WorkloadIdentity.Url.Domain

open Punycode (isAscii)

/-! ### Characters -/

/-- ASCII characters that no name of a host has: controls, the space, the percent sign and the
characters that end a host. -/
def isForbidden (c : Char) : Bool :=
  c.toNat ≤ 0x20 || c.toNat == 0x7F ||
    ['#', '%', '/', ':', '<', '>', '?', '@', '[', '\\', ']', '^', '|'].contains c

/-- What a character of a name stands for. -/
def mapChar? (c : Char) : Option (List Char) :=
  let n := c.toNat
  if n < 0x80 then some [c.toLower]
  else if ignored.contains n then some []
  else if refused.contains n then none
  else some ((replacement? n).getD [c])

/-- Whether a character may stand in a decoded label: one that stands for itself. -/
def isKept (c : Char) : Bool := mapChar? c == some [c] && !isForbidden c

/-! ### Labels -/

/-- A label as it reads and as it is written. -/
structure Label where
  readable : List Char
  written : List Char

/-- What an encoded label begins with. -/
def encoded : List Char := "xn--".toList

/-- The rules for a label in readable form: it does not begin with a mark, its joiners make a
difference, and beyond ASCII it is not overlong. -/
def isLabel (cs : List Char) : Bool :=
  !(cs.head?.map Text.isMark).getD false && joinersFit [] cs &&
    (cs.all isAscii || cs.length ≤ 1000)

/-- The label that stands behind `xn--`. It has a character beyond ASCII, or it would not have been
encoded; it needs no replacement and no composition; and it does not look encoded itself. -/
def decodeLabel? (digits : List Char) : Option (List Char) := do
  if 2000 < digits.length then none
  let readable ← Punycode.decode? digits
  if !readable.all isAscii && readable.all isKept && Text.normalize readable == readable &&
    !encoded.isPrefixOf readable
  then some readable else none

/-- A label written in ASCII. -/
def asciiForm (cs : List Char) : List Char :=
  if cs.all isAscii then cs else encoded ++ Punycode.encode cs

/-- Reads one label of a name. -/
def readLabel? (text : List Char) : Option Label :=
  match Text.after? encoded text with
  | some digits => do
    let readable ← decodeLabel? digits
    if isLabel readable then some { readable, written := text } else none
  | none => if isLabel text then some { readable := text, written := asciiForm text } else none

/-! ### Names -/

/-- The labels of a name; one in a script that is written from right to left puts all of them under
the rule for directions. -/
def readLabels? (name : List Char) : Option (List Label) := do
  let labels ← (Text.splitOn '.' name).mapM readLabel?
  let rightward := labels.any (·.readable.any isRightward)
  if rightward && !labels.all (isDirected ·.readable) then none else some labels

/-- The name that a text stands for, written in ASCII. -/
def parse (cs : List Char) : Except UrlFault (List Char) :=
  match cs.mapM mapChar? with
  | none => .error .invalidName
  | some parts =>
    let name := Text.normalize parts.flatten
    if name.any isForbidden then .error .invalidName
    else
      match readLabels? name with
      | none => .error .invalidName
      | some labels => .ok (Text.join ['.'] (labels.map (·.written)))

end WorkloadIdentity.Url.Domain
