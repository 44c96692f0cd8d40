import WorkloadIdentity.Number.Word
import WorkloadIdentity.Text.Segments

/-!
Labels beyond ASCII written in ASCII. The ASCII characters of a label come first, then a hyphen,
then where the others are inserted: in the order of their code points, and of their places for one
code point. Each insertion is written as its distance from the last one, counting the places in the
text so far for each code point passed over. A distance is a number in base thirty-six with the
lowest digit first; which digits are the last of a number is adapted to the distances before it.
-/

namespace WorkloadIdentity.Url.Punycode

def isAscii (c : Char) : Bool := c.toNat < 0x80

/-! ### Digits -/

/-- The value of a digit: letters first. -/
def digitValue? (c : Char) : Option Nat :=
  let n := c.toNat
  if 0x61 ≤ n && n ≤ 0x7A then some (n - 0x61)
  else if 0x41 ≤ n && n ≤ 0x5A then some (n - 0x41)
  else if 0x30 ≤ n && n ≤ 0x39 then some (n - 0x30 + 26)
  else none

def digit (d : Nat) : Char := Char.ofNat (if d < 26 then 0x61 + d else 0x30 + (d - 26))

/-- The threshold of the digit at position `k`: a smaller digit is the last. -/
def threshold (k bias : Nat) : Nat :=
  if k ≤ bias then 1 else if bias + 26 ≤ k then 26 else k - bias

/-- Divides by thirty-five while the distance is large, counting thirty-six for each time. -/
def shrink (delta k : Nat) : Nat × Nat :=
  if 455 < delta then shrink (delta / 35) (k + 36) else (delta, k)
termination_by delta
decreasing_by exact Nat.div_lt_self (by omega) (by omega)

/-- The bias for the next distance. -/
def adapt (delta count : Nat) (first : Bool) : Nat :=
  let delta := if first then delta / 700 else delta / 2
  let (delta, k) := shrink (delta + delta / count) 0
  k + 36 * delta / (delta + 38)

/-! ### Reading -/

/-- Reads one distance: its value on top of `acc`, and the rest of the digits. Neither the value nor
the weight of a digit exceeds thirty-two bits. -/
def readDelta (bias : Nat) (acc weight k : Nat) : List Char → Option (Nat × List Char)
  | [] => none
  | c :: rest => do
    let d ← digitValue? c
    let acc := acc + d * weight
    if word32 ≤ acc then none
    let t := threshold k bias
    if d < t then return (acc, rest)
    else if word32 ≤ weight * (36 - t) then none
    else readDelta bias acc (weight * (36 - t)) (k + 36) rest

/-- The code points that the digits insert into `out`; each distance takes at least one digit,
so their number is fuel enough. -/
def insertAll : Nat → Nat → Nat → Nat → List Char → List Char → Option (List Char)
  | _, _, _, _, out, [] => some out
  | 0, _, _, _, _, _ => none
  | fuel + 1, code, index, bias, out, digits => do
    let (next, rest) ← readDelta bias index 1 36 digits
    let count := out.length + 1
    let bias := adapt (next - index) count (index == 0)
    let code := code + next / count
    let index := next % count
    if h : code.isValidChar then
      let out := out.take index ++ Char.ofNatAux code h :: out.drop index
      insertAll fuel code (index + 1) bias out rest
    else none

/-- The label that an ASCII text stands for. A hyphen in front is no end of the ASCII characters. -/
def decode? (cs : List Char) : Option (List Char) :=
  match Text.cutLast? '-' cs with
  | some ([], _) => none
  | some (plain, digits) =>
    if plain.all isAscii then insertAll digits.length 0x80 0 72 plain digits else none
  | none => insertAll cs.length 0x80 0 72 [] cs

/-! ### Writing -/

theorem threshold_bounds (k bias : Nat) : 1 ≤ threshold k bias ∧ threshold k bias ≤ 26 := by
  unfold threshold
  split
  · omega
  · split <;> omega

/-- The digits of a distance, from position `k` on. -/
def writeDelta (bias k delta : Nat) : List Char :=
  let t := threshold k bias
  if delta < t then [digit delta]
  else digit (t + (delta - t) % (36 - t)) :: writeDelta bias (k + 36) ((delta - t) / (36 - t))
termination_by delta
decreasing_by
  have hbounds := threshold_bounds k bias
  have hle := Nat.div_le_self (delta - threshold k bias) (36 - threshold k bias)
  omega

/-- What is inserted, first to last: each code point beyond ASCII with its place in the text so
far. -/
def insertions (cs : List Char) : List (Nat × Nat) :=
  let inserted := cs.zipIdx.filter fun (c, _) => !isAscii c
  let sorted := inserted.mergeSort fun (c, _) (d, _) => c.toNat ≤ d.toNat
  sorted.map fun (c, i) => (c.toNat, (cs.take i).countP fun d => d.toNat ≤ c.toNat)

/-- The distances of insertions into a text; `count` are the places in it, and the last insertion
was of `code` and just before `index`. -/
def writeAll (count code index bias : Nat) : List (Nat × Nat) → List Char
  | [] => []
  | (next, place) :: rest =>
    let delta := (next - code) * count + place - index
    writeDelta bias 36 delta ++
      writeAll (count + 1) next (place + 1) (adapt delta count (index == 0)) rest

/-- A label written in ASCII. -/
def encode (cs : List Char) : List Char :=
  let plain := cs.filter isAscii
  let hyphen := if plain.isEmpty then [] else ['-']
  plain ++ hyphen ++ writeAll (plain.length + 1) 0x80 0 72 (insertions cs)

end WorkloadIdentity.Url.Punycode
