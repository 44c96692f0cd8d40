import WorkloadIdentity.Certificate.Time

/-!
The structure of a certificate, as far as it is needed: the names and the time that it is valid
for, and the extensions. Readers of certificates are more forgiving than writers, and so is this
one: bytes behind the last field of a structure are passed over, lengths may be longer than they
have to be, and a name ends at the first part of it that is malformed.
-/

namespace WorkloadIdentity.Certificate

open Der

/-- One attribute of a name. -/
structure Attribute where
  /-- The identifier of its kind, as it is encoded. -/
  kind : Bytes
  value : Element

structure Extension where
  kind : Bytes
  value : Bytes

/-- What is read of a certificate. -/
structure Structure where
  notBefore : WallTime
  notAfter : WallTime
  /-- The attributes of the subject's name in their order. -/
  subject : List Attribute
  extensions : List Extension

/-- The encoded identifier of an element. -/
def encodedOid : Reading Bytes := do
  let e ← numbered Tag.identifier
  guard (!e.tag.constructed)
  return e.content

/-- An algorithm and its parameters, which it may have. -/
def algorithm : Reading Unit := do
  let e ← numbered Tag.sequence
  e.inside do
    let _ ← encodedOid
    if !(← atEnd) then
      let _ ← element

/-- The bits of a bit string. -/
def bitString : Reading Bytes := do bits (← numbered Tag.bitString)

/-- The next element, if there is one, it is whole, and it passes the test. -/
def optionalElement (test : Element → Bool) : Reading (Option Element) := fun text =>
  match element.run text with
  | some (e, rest) => if test e then some (some e, rest) else some (none, text)
  | none => some (none, text)

/-- The element has this number within its structure. -/
def isField (number : Nat) (e : Element) : Bool := e.tag.kind == .context && e.tag.number == number

/-- The version, which may be missing and may be any number. -/
def version : Reading Unit := do
  match ← optionalElement (isField 0) with
  | none => pure ()
  | some e =>
    e.inside do
      let inner ← numbered Tag.integer
      guard (!inner.tag.constructed)
      let value ← ofOption (naturalOf? inner.content)
      guard (value < word32)

def nameAttribute : Reading Attribute := do
  let e ← numbered Tag.sequence
  e.inside do
    let kind ← encodedOid
    return { kind, value := ← element }

/-- A set of attributes, at least one of them. -/
def attributeSet : Reading (List Attribute) := do
  let e ← numbered Tag.set
  let attributes ← e.inside (many nameAttribute)
  guard (!attributes.isEmpty)
  return attributes

def name : Reading (List Attribute) := do
  let e ← numbered Tag.sequence
  let sets ← e.inside (many attributeSet)
  return sets.flatten

def validity : Reading (WallTime × WallTime) := do
  let e ← numbered Tag.sequence
  e.inside do
    let notBefore ← time
    return (notBefore, ← time)

def publicKey : Reading Unit := do
  let e ← numbered Tag.sequence
  e.inside do
    algorithm
    let _ ← bitString

/-- The number of an issuer or a subject beside its name, which hardly any certificate has. -/
def uniqueNumber (field : Nat) : Reading Unit := do
  match ← optionalElement (isField field) with
  | none => pure ()
  | some e =>
    let _ ← bits e

/-- The mark that an extension has to be understood: a truth value of one byte. -/
def isCriticalMark (e : Element) : Bool := e.tag.number == Tag.boolean && e.content.length == 1

def extension : Reading Extension := do
  let e ← numbered Tag.sequence
  e.inside do
    let kind ← encodedOid
    let _ ← optionalElement isCriticalMark
    let value ← numbered Tag.octetString
    return { kind, value := value.content }

/-- The extensions at the end; every one of them has to be well formed. -/
def extensions : Reading (List Extension) := do
  if ← atEnd then return []
  let outer ← tag
  let _ ← length
  guard (outer.number = 3)
  let e ← numbered Tag.sequence
  ofOption (whole e.content (many extension))

/-- The part of a certificate that is signed. -/
def signedPart : Reading Structure := do
  let e ← numbered Tag.sequence
  e.inside do
    version
    let _ ← numbered Tag.integer
    algorithm
    let _ ← name
    let (notBefore, notAfter) ← validity
    let subject ← name
    publicKey
    uniqueNumber 1
    uniqueNumber 2
    return { notBefore, notAfter, subject, extensions := ← extensions }

/-- A certificate, whose signature is not verified. -/
def certificate : Reading Structure := do
  let e ← numbered Tag.sequence
  e.inside do
    let contents ← signedPart
    algorithm
    let _ ← bitString
    return contents

end WorkloadIdentity.Certificate
