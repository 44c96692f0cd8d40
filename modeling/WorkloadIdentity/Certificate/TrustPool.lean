import WorkloadIdentity.Certificate.Chain
import WorkloadIdentity.Certificate.Structure

/-!
The authorities that the broker's certificate may come from. A certificate is taken into the pool
only if its structure is canonical down to the names, and if it has no extension that would have
to be understood and is not. A certificate of the first version, which has no version field, is
taken as well; those of other versions than the first and the third are not.
-/

namespace WorkloadIdentity

namespace Certificate

open Der

namespace Canonical

def sequence : Tag := ⟨.universal, true, Tag.sequence⟩
def integer : Tag := ⟨.universal, false, Tag.integer⟩
def bitString : Tag := ⟨.universal, false, Tag.bitString⟩
def octetString : Tag := ⟨.universal, false, Tag.octetString⟩
def identifier : Tag := ⟨.universal, false, Tag.identifier⟩
def boolean : Tag := ⟨.universal, false, Tag.boolean⟩

/-- A field by its number within a structure. -/
def field (number : Nat) : Tag := ⟨.context, true, number⟩

/-- The content of the next element, which has to be canonical and to have this tag. -/
def content (tag : Tag) : Reading Bytes := do
  let e ← element
  guard (e.isCanonical ∧ e.tag = tag)
  return e.content

/-- An element with this tag, whose whole content is read by `reading`. -/
def within {α : Type} (tag : Tag) (reading : Reading α) : Reading α := do
  ofOption (whole (← content tag) reading)

/-- A number that is not negative. -/
def natural : Reading Nat := do ofOption (naturalOf? (← content integer))

/-- The truth value of an extension, which is missing if it is false. -/
def critical : Reading Bool := do
  if (← get).head? = some 0x01 then
    match ← content boolean with
    | [0xFF] => return true
    | [0x00] => return false
    | _ => failure
  else return false

end Canonical

open Canonical

/-- Extensions that a trust pool looks at, by the last arc of their identifiers: key usage,
alternative names, constraints, name constraints, revocation lists and extended key usage. -/
def knownArcs : List UInt8 := [15, 17, 19, 30, 31, 37]

/-- The only one of them that is no sequence. -/
def keyUsageArc : UInt8 := 15

/-- The last arc of a standard extension. -/
def standardArc? : Bytes → Option UInt8
  | [0x55, 0x1D, arc] => some arc
  | _ => none

/-- An extension that the pool can live with; the answer is its arc if the pool knows it. -/
def anchorExtension : Reading (Option UInt8) :=
  within Canonical.sequence do
    let arc := standardArc? (← content identifier)
    let critical ← critical
    let value ← content octetString
    match arc.filter (knownArcs.contains ·) with
    | none =>
      guard (!critical)
      return none
    | some arc =>
      guard (arc = keyUsageArc ∨ (whole value (content Canonical.sequence)).isSome)
      return some arc

/-- The extensions of an anchor; none of those that are known is given twice. -/
def anchorExtensions : Reading Unit :=
  within (field 3) do
    within Canonical.sequence do
      let arcs ← many anchorExtension
      guard (arcs.filterMap id).Nodup

/-- The part of an anchor that is signed, given the algorithm that stands beside it. -/
def anchorPart (algorithm : Bytes) : Reading Unit := do
  let versioned := (← get).head? = some 0xA0
  if versioned then
    within (field 0) do guard ((← natural) = 2)
  let _ ← content integer
  let inner ← content Canonical.sequence
  let _ ← content Canonical.sequence
  let _ ← content Canonical.sequence
  let _ ← content Canonical.sequence
  let _ ← content Canonical.sequence
  if versioned then
    guard (inner = algorithm)
    if !(← atEnd) then anchorExtensions

/-- A certificate that can be taken into the pool. -/
def anchor : Reading Unit :=
  within Canonical.sequence do
    let signed ← content Canonical.sequence
    let algorithm ← content Canonical.sequence
    let signature ← content Canonical.bitString
    guard (signature.head? = some 0)
    ofOption (whole signed (anchorPart algorithm))

end Certificate

/-- The certificates of the authorities that are trusted. -/
structure TrustPool where
  anchors : List Bytes
deriving DecidableEq, Repr

namespace TrustPool

/-- A pool of all the certificates of a text. -/
def ofText (text : Bytes) : Except Failure TrustPool :=
  match Certificate.chain text with
  | .error fault => .error (.untrustedAuthority (Failure.certificate fault).message)
  | .ok certificates =>
    if certificates.all fun c => (Der.whole c Certificate.anchor).isSome then .ok ⟨certificates⟩
    else .error (.untrustedAuthority "Failed to add CA cert to trust pool: malformed structure")

end TrustPool

end WorkloadIdentity
