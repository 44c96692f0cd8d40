/-!
Blank characters and trimming. A character is blank when it has the `White_Space` property of the
Unicode standard: the no-break space and the ideographic space are blank, the zero-width space and
the byte order mark are not. Trimming takes a run of blanks off both ends and leaves the inside as
it is.
-/

namespace WorkloadIdentity.Text

/-- The `White_Space` property. -/
def isBlank (c : Char) : Bool :=
  let n := c.toNat
  (0x09 ≤ n && n ≤ 0x0D) || n == 0x20 || n == 0x85 || n == 0xA0 || n == 0x1680 ||
    (0x2000 ≤ n && n ≤ 0x200A) || n == 0x2028 || n == 0x2029 || n == 0x202F || n == 0x205F ||
    n == 0x3000

def trimStart (cs : List Char) : List Char := cs.dropWhile isBlank

def trimEnd (cs : List Char) : List Char := (cs.reverse.dropWhile isBlank).reverse

/-- The text without the blanks at its two ends. -/
def trim (cs : List Char) : List Char := trimEnd (trimStart cs)

/-- `trim` on strings. -/
def trimmed (s : String) : String := String.ofList (trim s.toList)

/-- An optional setting that is blank counts as one that is not set. -/
def nonBlank? (s : Option String) : Option String :=
  (s.map trimmed).filter (· ≠ "")

end WorkloadIdentity.Text
