import WorkloadIdentity.Text.Segments

/-!
Host identities, as in `host/apps/team/ns/sa/pod`. The broker takes an identity in two halves: the
policy it lives under, which goes into a header, and the leaf that is named in the certificate.
The leaf keeps at most the last three segments, since older brokers see nothing else.
-/

namespace WorkloadIdentity

/-- Why a text is no host identity, or why one is missing. -/
inductive IdentityFault where
  | notHost
  | noSegment
  | emptySegment
  | neededForCertificate
  | neededForMetadata
  | described (words : String)
deriving DecidableEq, Repr

def IdentityFault.message : IdentityFault → String
  | .notHost => "identity must start with the 'host/' segment"
  | .noSegment => "identity must contain at least one segment after 'host'"
  | .emptySegment => "identity segments must not be empty"
  | .neededForCertificate => "a host identity is required for certificate authentication"
  | .neededForMetadata => "a host identity is required for metadata authentication"
  | .described words => words

/-- The segments behind `host`: at least one, and none of them empty. -/
structure HostIdentity where
  segments : List (List Char)
  nonempty : segments ≠ []
  filled : ∀ s ∈ segments, s ≠ []
deriving DecidableEq, Repr

namespace HostIdentity

def hostSegment : List Char := "host".toList

/-- How many segments the leaf has at most. -/
def leafSegments : Nat := 3

/-- How many segments stay with the policy. -/
def policyLength (h : HostIdentity) : Nat := h.segments.length - leafSegments

/-- The identity as it is written, with slashes. -/
def full (h : HostIdentity) : String :=
  String.ofList (Text.join ['/'] (hostSegment :: h.segments))

/-- The policy half, beginning with `host` and joined with points. -/
def policy (h : HostIdentity) : String :=
  String.ofList (Text.join ['.'] (hostSegment :: h.segments.take h.policyLength))

/-- The leaf half, joined with points. -/
def leaf (h : HostIdentity) : String :=
  String.ofList (Text.join ['.'] (h.segments.drop h.policyLength))

/-- Reads an identity. That no segment is given goes before that one is empty, so `host/` and
`host//` have no segment at all. -/
def parse (raw : String) : Except IdentityFault HostIdentity :=
  match Text.splitOn '/' raw.toList with
  | [] => .error .notHost
  | first :: segments =>
    if first ≠ hostSegment then .error .notHost
    else if h : segments = [] then .error .noSegment
    else if segments.all (·.isEmpty) then .error .noSegment
    else if hs : ∀ s ∈ segments, s ≠ [] then .ok ⟨segments, h, hs⟩
    else .error .emptySegment

end HostIdentity

end WorkloadIdentity
