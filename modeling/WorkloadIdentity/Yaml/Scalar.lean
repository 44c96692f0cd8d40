import WorkloadIdentity.Yaml.Cursor
import WorkloadIdentity.Url.Percent

/-!
The texts of a YAML file, in their three spellings: plain, between quotes, and as a block of lines
behind `|` or `>`. In the first two a line end is folded: it counts as a space, and each empty
line behind it as a line end. A block keeps its line ends or folds those between lines that begin
with no blank.
-/

namespace WorkloadIdentity.Yaml

/-! ### Gaps -/

/-- What stands between two words: blanks, and after the first line end only line ends. -/
structure Gap where
  blanks : List Char
  first : Option (List Char)
  more : List Char

namespace Gap

/-- The text that a gap stands for. -/
def folded (g : Gap) : List Char :=
  match g.first with
  | none => g.blanks
  | some first =>
    if first = ['\n'] then (if g.more.isEmpty then [' '] else g.more) else first ++ g.more

/-- Reads a gap to its end; `first` is there if a line end has been read already. No tab stands in
front of column `indent` of a new line. -/
def read (indent : Int) : (fuel : Nat) → Gap → Cursor → Option (Gap × Cursor)
  | 0, g, c => some (g, c)
  | fuel + 1, g, c =>
    match c.head? with
    | none => some (g, c)
    | some x =>
      if isBlank x then
        if g.first.isSome && (c.column : Int) < indent && x == '\t' then none
        else
          let g := if g.first.isSome then g else { g with blanks := g.blanks ++ [x] }
          read indent fuel g (c.skip 1)
      else if isBreak x then
        let (text, c) := c.readBreak
        let g :=
          match g.first with
          | none => { blanks := [], first := some text, more := [] }
          | some _ => { g with more := g.more ++ text }
        read indent fuel g c
      else some (g, c)

end Gap

/-! ### Plain -/

/-- Characters that end a plain text inside brackets. -/
def isFlowIndicator (c : Char) : Bool := [',', '[', ']', '\x7b', '\x7d'].contains c

/-- The next word of a plain text; nothing if a colon stands where it can be neither text nor
mark. -/
def plainWord (flow : Bool) : List Char → Option (List Char)
  | [] => some []
  | c :: rest =>
    let next := rest.head?
    if isBlank c || isBreak c then some []
    else if flow && c == ':' && next.any fun x => isFlowIndicator x || x == '?' then none
    else if c == ':' && (next.map fun x => isBlank x || isBreak x).getD true then some []
    else if flow && isFlowIndicator c then some []
    else (plainWord flow rest).map (c :: ·)

/-- A plain text from a word on; `text` and `gap` have been read before. The answer says whether a
line ended after the last word. Outside brackets the text ends at a line that is not indented
enough. -/
def plainFrom (flow : Bool) (indent : Int) : (fuel : Nat) → List Char → Gap → Cursor →
    Option (List Char × Bool × Cursor)
  | 0, _, _, _ => none
  | fuel + 1, text, gap, c =>
    if c.atDocumentMark || c.isAt '#' then some (text, gap.first.isSome, c)
    else do
      let word ← plainWord flow c.rest
      let (text, gap) :=
        if word.isEmpty then (text, gap) else (text ++ gap.folded ++ word, ⟨[], none, []⟩)
      let c := c.skip word.length
      if c.holds (fun x => isBlank x || isBreak x) 0 then
        let (gap, c) ← Gap.read indent (c.rest.length + 1) gap c
        if !flow && (c.column : Int) < indent then some (text, gap.first.isSome, c)
        else plainFrom flow indent fuel text gap c
      else some (text, gap.first.isSome, c)

/-! ### Quoted -/

/-- What a letter behind a backslash stands for. -/
def escape? (c : Char) : Option Char :=
  match c with
  | '0' => some '\x00'
  | 'a' => some '\x07'
  | 'b' => some '\x08'
  | 't' | '\t' => some '\t'
  | 'n' => some '\n'
  | 'v' => some '\x0b'
  | 'f' => some '\x0c'
  | 'r' => some '\r'
  | 'e' => some '\x1b'
  | ' ' => some ' '
  | '"' => some '"'
  | '/' => some '/'
  | '\\' => some '\\'
  | 'N' => some '\u0085'
  | '_' => some '\u00a0'
  | 'L' => some '\u2028'
  | 'P' => some '\u2029'
  | _ => none

/-- How many digits the code point behind a letter has. -/
def escapeDigits? (c : Char) : Option Nat :=
  match c with
  | 'x' => some 2
  | 'u' => some 4
  | 'U' => some 8
  | _ => none

/-- The character of a code point in hexadecimal digits. -/
def codePoint? (digits : List Char) (count : Nat) : Option Char := do
  let values ← digits.mapM Url.hexValue?
  let n := values.foldl (fun acc d => acc * 16 + d) 0
  if values.length = count && (n < 0xD800 || (0xDFFF < n && n ≤ 0x10FFFF)) then some (Char.ofNat n)
  else none

/-- Why a run of characters between quotes ends: at the closing quote or a gap, or at an escaped
line end. -/
inductive QuotedStop where
  | plain
  | escapedBreak

/-- Characters between quotes up to a gap or the closing quote. -/
def quotedRun (single : Bool) : (fuel : Nat) → Cursor → Option (List Char × QuotedStop × Cursor)
  | 0, _ => none
  | fuel + 1, c =>
    let add (x : Char) (c : Cursor) : Option (List Char × QuotedStop × Cursor) := do
      let (text, stop, c) ← quotedRun single fuel c
      return (x :: text, stop, c)
    match c.rest with
    | [] => some ([], .plain, c)
    | x :: rest =>
      if isBlank x || isBreak x then some ([], .plain, c)
      else if single then
        if x == '\'' then
          if rest.head? == some '\'' then add '\'' (c.skip 2) else some ([], .plain, c)
        else add x (c.skip 1)
      else if x == '"' then some ([], .plain, c)
      else if x == '\\' then
        match rest with
        | [] => none
        | y :: digits =>
          if isBreak y then some ([], .escapedBreak, (c.skip 1).dropBreak)
          else
            match escapeDigits? y with
            | some count => do
              let z ← codePoint? (digits.take count) count
              add z (c.skip (2 + count))
            | none => do
              let z ← escape? y
              add z (c.skip 2)
      else add x (c.skip 1)

/-- A text between quotes from behind the opening one; `text` has been read before. -/
def quotedFrom (single : Bool) : (fuel : Nat) → List Char → Cursor → Option (List Char × Cursor)
  | 0, _, _ => none
  | fuel + 1, text, c =>
    if c.atDocumentMark || c.atEnd then none
    else do
      let (run, stop, c) ← quotedRun single (c.rest.length + 1) c
      let text := text ++ run
      let gap : Gap :=
        match stop with
        | .plain => ⟨[], none, []⟩
        | .escapedBreak => ⟨[], some [], []⟩
      if c.isAt (if single then '\'' else '"') then some (text, c.skip 1)
      else
        let (gap, c) ← Gap.read 0 (c.rest.length + 1) gap c
        quotedFrom single fuel (text ++ gap.folded) c

/-! ### Blocks -/

/-- What becomes of the line ends at the end of a block. -/
inductive Chomp where
  | strip
  | clip
  | keep

/-- The marks behind `|` and `>`: what is done at the end, and the indentation of the block. -/
def blockMarks (c : Cursor) : Option (Chomp × Option Nat × Cursor) :=
  let chomp (c : Cursor) : Option Chomp × Cursor :=
    if c.isAt '+' then (some .keep, c.skip 1)
    else if c.isAt '-' then (some .strip, c.skip 1)
    else (none, c)
  let width (c : Cursor) : Option (Option Nat × Cursor) :=
    match c.head? with
    | some x =>
      if x == '0' then none
      else if '1' ≤ x && x ≤ '9' then some (some (x.toNat - '0'.toNat), c.skip 1)
      else some (none, c)
    | none => some (none, c)
  match chomp c with
  | (some kind, c) => (width c).map fun (indent, c) => (kind, indent, c)
  | (none, c) => do
    let (indent, c) ← width c
    match indent with
    | some _ =>
      let (kind, c) := chomp c
      return (kind.getD .clip, indent, c)
    | none => return (.clip, none, c)

/-- Goes over empty lines and the indentation of the next one. With `indent` the indentation is
known; without it, the longest one seen so far is kept in `longest`. -/
def blockBreaks (indent : Option Nat) : (fuel : Nat) → (longest : Nat) → List Char → Cursor →
    Option (List Char × Nat × Cursor)
  | 0, _, _, _ => none
  | fuel + 1, longest, breaks, c =>
    let inside (column : Nat) : Bool := (indent.map fun n => decide (column < n)).getD true
    let spaces := c.rest.takeWhile (· == ' ')
    let count :=
      match indent with
      | none => spaces.length
      | some n => min spaces.length (n - c.column)
    let c := c.skip count
    let longest := max longest c.column
    if inside c.column && c.isAt '\t' then none
    else if c.holds isBreak 0 then
      let (text, c) := c.readBreak
      blockBreaks indent fuel longest (breaks ++ text) c
    else some (breaks, longest, c)

/-- The lines of a block. `lead` is the line end behind the last line, `breaks` those of empty
lines behind that, and `blank` says whether the last line began with a blank. -/
def blockLines (literal : Bool) (indent : Nat) : (fuel : Nat) → (text lead breaks : List Char) →
    (blank : Bool) → Cursor → Option (List Char × List Char × List Char × Cursor)
  | 0, _, _, _, _, _ => none
  | fuel + 1, text, lead, breaks, blank, c =>
    if c.column = indent ∧ !c.atEnd then do
      let nowBlank := c.holds isBlank 0
      let text :=
        if !literal && lead == ['\n'] && !blank && !nowBlank then
          if breaks.isEmpty then text ++ [' '] else text ++ breaks
        else text ++ lead ++ breaks
      let (line, c) := c.take fun x => !isBreak x
      let (lead, c) := c.readBreak
      let (breaks, _, c) ← blockBreaks (some indent) (c.rest.length + 1) 0 [] c
      blockLines literal indent fuel (text ++ line) lead breaks nowBlank c
    else some (text, lead, breaks, c)

/-- A block from behind its first mark; `parent` is the indentation that it lies in. -/
def block (literal : Bool) (parent : Int) (c : Cursor) : Option (List Char × Cursor) := do
  let (chomp, width, c) ← blockMarks c
  let c := c.dropBlanks.dropComment
  if !c.endsLine 0 then none
  let c := c.dropBreak
  let known := width.map fun n => if 0 ≤ parent then parent.toNat + n else n
  let fuel := c.rest.length + 1
  let (breaks, longest, c) ← blockBreaks known fuel 0 [] c
  let indent := known.getD (max (max longest (parent + 1).toNat) 1)
  let (text, lead, breaks, c) ← blockLines literal indent fuel [] [] breaks false c
  let text :=
    match chomp with
    | .strip => text
    | .clip => text ++ lead
    | .keep => text ++ lead ++ breaks
  return (text, c)

end WorkloadIdentity.Yaml
