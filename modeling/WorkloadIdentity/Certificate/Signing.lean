import WorkloadIdentity.Certificate.Client
import WorkloadIdentity.Certificate.Key

/-!
Asking for a client certificate. The request names the leaf of the host identity and the pod, and
is signed by a key that is made anew for each process and is not kept anywhere.
-/

namespace WorkloadIdentity

/-- The address of a pod within its cluster. -/
def podUri (podNamespace podName : String) : String :=
  "spiffe://cluster.local/namespace/" ++ podNamespace ++ "/podname/" ++ podName

/-- A key on the first of the curves, by its secret number. -/
structure SessionKey where
  secret : Nat
deriving DecidableEq

namespace SessionKey

def curve : Oid := [1, 2, 840, 10045, 3, 1, 7]

/-- The structure that the key is written in. -/
def form : KeyForm := .general

def signing (_key : SessionKey) : SigningKey := .ecdsa curve

/-- The key as it may be shown, which is without its secret. -/
def shown (_key : SessionKey) : String := "SessionKey \x7b .. \x7d"

end SessionKey

/-- What a signing request asks for. -/
structure SigningRequest where
  /-- The attributes of the subject's name: their kinds and texts. -/
  subject : List (Oid × String)
  /-- The addresses among the subject's alternative names. -/
  uris : List String
deriving DecidableEq, Repr

namespace SigningRequest

/-- ECDSA with a hash of 256 bits, which is what requests are signed with. -/
def algorithm : Oid := [1, 2, 840, 10045, 4, 3, 2]

/-- The label under which a request is sent. -/
def label : PemLabel := .signingRequest

/-- The request of a pod. Addresses in certificates are ASCII, which a pod's names need not be. -/
def create (identity : HostIdentity) (podNamespace podName : String) :
    Except CertificateFault SigningRequest :=
  let uri := podUri podNamespace podName
  if uri.toList.all fun c => c.toNat < 0x80 then
    .ok { subject := [(Certificate.commonNameOid, identity.leaf)], uris := [uri] }
  else .error (.badUri uri)

end SigningRequest

end WorkloadIdentity
