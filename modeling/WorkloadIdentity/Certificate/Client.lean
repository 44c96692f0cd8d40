import WorkloadIdentity.Certificate.Chain
import WorkloadIdentity.Certificate.Structure

/-!
The client certificate that a login gives: whom it names, and until when it is of use.
-/

namespace WorkloadIdentity

/-- What is kept of a client certificate. -/
structure ClientCertificate where
  /-- The text that it was read from. -/
  text : String
  /-- The common name of its subject. -/
  commonName : Option String
  /-- The addresses among the alternative names of its subject. -/
  uris : List String
  notBefore : WallTime
  notAfter : WallTime
deriving DecidableEq, Repr

namespace Certificate

def commonNameOid : Oid := [2, 5, 4, 3]
def alternativeNamesOid : Oid := [2, 5, 29, 17]

/-- The tags of texts that are written in UTF-8 or in a part of it. -/
def textTags : List Nat :=
  [Der.Tag.utf8String, Der.Tag.numericString, Der.Tag.printableString, Der.Tag.asciiString]

/-- The text of an attribute, if it is one. -/
def Attribute.text? (a : Attribute) : Option String :=
  if a.value.tag.number ∈ textTags then Utf8.toString? a.value.content else none

namespace Structure

/-- The first common name; that it is no text does not bring in a later one. -/
def commonName? (s : Structure) : Option String :=
  (s.subject.find? fun a => a.kind == commonNameOid.content).bind Attribute.text?

/-- The address that an alternative name is. -/
def uri? (e : Der.Element) : Option String :=
  if isField 6 e then Utf8.toString? e.content else none

/-- The elements of a sequence, all of which have to be whole. -/
def elementsOf? (value : Bytes) : Option (List Der.Element) := do
  let (e, _) ← (Der.numbered Der.Tag.sequence).run value
  Der.whole e.content (Der.many Der.element)

/-- The addresses among the alternative names. Names given twice, or malformed ones, are as good
as none. -/
def uris (s : Structure) : List String :=
  match s.extensions.filter fun e => e.kind == alternativeNamesOid.content with
  | [e] => ((elementsOf? e.value).getD []).filterMap uri?
  | _ => []

end Structure

end Certificate

namespace ClientCertificate

/-- Reads the first certificate of a text. -/
def ofText (text : Bytes) : Except CertificateFault ClientCertificate := do
  match ← Certificate.chain text with
  | [] => .error .emptyChain
  | first :: _ =>
    match Certificate.certificate.run first with
    | none => .error .badCertificate
    | some (s, _) => .ok {
        text := Utf8.toStringLossy text
        commonName := s.commonName?
        uris := s.uris
        notBefore := s.notBefore
        notAfter := s.notAfter }

/-- The certificate is of no use any more at a point in time, when the last part of its life, as
long as `buffer`, counts as over already. -/
def isExpiredAt (c : ClientCertificate) (now : WallTime) (buffer : Duration) : Bool :=
  c.notAfter ≤ WallTime.after now buffer

end ClientCertificate

end WorkloadIdentity
