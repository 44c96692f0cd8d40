import WorkloadIdentity.Failure

/-!
Certificates and private keys as they are found in text. What they hold is not looked at here.
-/

namespace WorkloadIdentity

/-- The structures that a private key comes in. -/
inductive KeyForm where
  /-- An RSA key by itself. -/
  | rsa
  /-- A key of any kind, which says of what kind it is. -/
  | general
  /-- A key on an elliptic curve by itself. -/
  | ec
deriving DecidableEq, Repr

/-- A private key whose structure has not been read yet. -/
structure EncodedKey where
  form : KeyForm
  content : Bytes
deriving DecidableEq, Repr

namespace Certificate

/-- The first fault, or all the sections. -/
def itemsOf (text : Bytes) : Except PemFault (List PemItem) := (Pem.items text).mapM id

/-- The certificates of a text, of which there has to be at least one. A fault in any section of
the text is one of them all. -/
def chain (text : Bytes) : Except CertificateFault (List Bytes) := do
  let items ← (itemsOf text).mapError .badCertificateText
  match (items.filter (·.label == .certificate)).map (·.content) with
  | [] => .error .noCertificate
  | certificates => .ok certificates

end Certificate

namespace EncodedKey

/-- The form that a label announces, if it is that of a private key. -/
def form? : PemLabel → Option KeyForm
  | .rsaKey => some .rsa
  | .privateKey => some .general
  | .ecKey => some .ec
  | _ => none

/-- The first private key of a text. Only a fault in front of it counts. -/
def first : List (Except PemFault PemItem) → Except CertificateFault EncodedKey
  | [] => .error .noPrivateKey
  | .error fault :: _ => .error (.badKeyText fault)
  | .ok item :: rest =>
    match form? item.label with
    | some form => .ok ⟨form, item.content⟩
    | none => first rest

def ofText (text : Bytes) : Except CertificateFault EncodedKey := first (Pem.items text)

end EncodedKey

end WorkloadIdentity
