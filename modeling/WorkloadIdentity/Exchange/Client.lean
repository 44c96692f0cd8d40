import WorkloadIdentity.Certificate.Signing

/-!
Clients for requests to the broker. A connector knows which authorities are trusted and how long a
request may take, and makes clients that show no certificate or that show one when they are asked
to.
-/

namespace WorkloadIdentity

/-- A client. It trusts nothing but the authorities of its pool. -/
structure Client where
  pool : TrustPool
  /-- The most that a request may take. -/
  timeout : Duration
  /-- The certificates that it shows, and the key that proves that it may. -/
  shows : Option (List Bytes × SigningKey)
deriving DecidableEq

/-- What clients are made from. -/
structure Connector where
  pool : TrustPool
  timeout : Duration
deriving DecidableEq

namespace Connector

def defaultTimeout : Duration := .ofSecs 10

/-- A connector that trusts the authorities whose certificates a text holds. -/
def ofText (authorities : Bytes) : Except Failure Connector :=
  (TrustPool.ofText authorities).map fun pool => { pool, timeout := defaultTimeout }

def withTimeout (c : Connector) (timeout : Duration) : Connector := { c with timeout }

/-- A client that shows no certificate. -/
def client (c : Connector) : Client := { pool := c.pool, timeout := c.timeout, shows := none }

/-- A client that shows the certificates of a text. -/
def mutualClient (c : Connector) (certificates : Bytes) (key : SigningKey) :
    Except CertificateFault Client :=
  (Certificate.chain certificates).map fun chain => { c.client with shows := some (chain, key) }

/-- A client that shows the certificates of a text and has its key from another one. -/
def mutualClientOfText (c : Connector) (certificates key : Bytes) :
    Except CertificateFault Client := do
  let _ ← Certificate.chain certificates
  let encoded ← EncodedKey.ofText key
  c.mutualClient certificates (← SigningKey.ofEncoded encoded)

end Connector

namespace Client

/-- A client from texts. It shows certificates only if both they and a key are given. -/
def ofTexts (authorities : Bytes) (certificates key : Option Bytes) : Except Failure Client := do
  let connector ← Connector.ofText authorities
  match certificates, key with
  | some certificates, some key =>
    (connector.mutualClientOfText certificates key).mapError .certificate
  | _, _ => return connector.client

end Client

end WorkloadIdentity
