import WorkloadIdentity.Exchange.Delivery
import WorkloadIdentity.Settings.Derived

/-!
Proving an identity by a certificate. A login sends a signing request and waits for the
certificate; an authentication then asks for the access token with the client that shows it. A
session is of use until its certificate expires, or until the broker says that it has.
-/

namespace WorkloadIdentity

/-- Who authenticates by a certificate, and with what. -/
structure CertificateAuthenticator where
  settings : CertificateSettings
  connector : Connector
  key : SessionKey

namespace CertificateAuthenticator

/-- The header field that carries the policy half of the identity. -/
def policyHeader : String := "Host-Id-Prefix"

/-- A login is needed at a point in time: there is no session, or its certificate expires too
soon. -/
def needsLogin (a : CertificateAuthenticator) (session : Option Session) (now : WallTime) : Bool :=
  match session with
  | none => true
  | some session => session.certificate.isExpiredAt now a.settings.expiryBuffer

/-- The session's certificate is expired; without a session there is none. -/
def isExpired (a : CertificateAuthenticator) (session : Option Session) (now : WallTime) : Bool :=
  session.isSome && a.needsLogin session now

def loginRequest (a : CertificateAuthenticator) (csr : SigningRequest) :
    Except TransportFault Request :=
  Request.build .post (Endpoint.login a.settings.baseUrl) []
    [(policyHeader, a.settings.identity.policy)] (.signingRequest csr)

def tokenRequest (a : CertificateAuthenticator) : Except TransportFault Request :=
  Request.build .post
    (Endpoint.authenticate a.settings.baseUrl a.settings.account a.settings.identity.full
      a.settings.version)
    [] [] .empty

/-- What the broker has against a signing request, if anything. -/
def refusal (answer : Except TransportFault Response) : Except Failure Unit :=
  match answer with
  | .error fault => .error (.transport fault)
  | .ok response =>
    if response.isSuccess then .ok ()
    else
      match response.content with
      | .error fault => .error (.transport fault)
      | .ok content =>
        .error (.loginFailed
          ("CSR rejected: " ++ (Rejection.ofResponse response.status content).shown))

/-- The session that a delivered certificate makes. The client shows the certificates of the text
that was kept of it. -/
def session (a : CertificateAuthenticator) (delivered : Bytes) : Except Failure Session := do
  let certificate ← (ClientCertificate.ofText delivered).mapError fun fault =>
    .loginFailed ("Invalid client certificate: " ++ (Failure.certificate fault).message)
  let client ← (a.connector.mutualClient (Utf8.ofString certificate.text) a.key.signing).mapError
    .certificate
  return { certificate, client }

/-- Gets a new session. A certificate that lies there from before is not taken for the new one,
and the new one does not stay. -/
def newSession (a : CertificateAuthenticator) : Exchange Session := do
  let path := a.settings.certificatePath
  Exchange.discardFile path
  let csr ← Exchange.ofExcept
    ((SigningRequest.create a.settings.identity a.settings.podNamespace a.settings.podName).mapError
      .certificate)
  let answer ← Exchange.response a.connector.client (a.loginRequest csr)
  Exchange.ofExcept (refusal answer)
  let delivered ← Delivery.await path a.settings.retryLimit a.settings.pollInterval
  Exchange.discardFile path
  Exchange.ofExcept (a.session delivered)

/-- Gives up the old session before anything else, and keeps the new one. -/
def login (a : CertificateAuthenticator) : Exchange Session := do
  Exchange.keep none
  let session ← a.newSession
  Exchange.keep (some session)
  return session

/-- The session to authenticate with: the one that is kept, or a new one where a login is
needed. -/
def sessionFor (a : CertificateAuthenticator) (kept : Option Session) : Exchange Session := do
  match kept with
  | none => a.login
  | some session =>
    let now ← Exchange.now
    if a.needsLogin kept now then a.login else return session

/-- Asks for the access token in a session, and hands it over. -/
def obtain (a : CertificateAuthenticator) (session : Session) : Exchange Unit :=
  Exchange.obtain session.client a.tokenRequest

/-- Authenticates. Where the broker says that the certificate has expired, there is one more login
and one more request, whatever comes of that. -/
def authenticate (a : CertificateAuthenticator) (kept : Option Session) : Exchange Unit := do
  let first ← a.sessionFor kept
  match ← Exchange.settled (a.obtain first) with
  | .ok () => return ()
  | .error failure =>
    if failure.isCertificateExpired then
      let second ← a.login
      a.obtain second
    else Exchange.fail failure

/-- The authenticator as it may be shown. -/
def shown (a : CertificateAuthenticator) (session : Option Session) : String :=
  "K8sAuthenticator \x7b identity: " ++ Text.quoted a.settings.identity.full ++ ", logged_in: " ++
    (if session.isSome then "true" else "false") ++ ", .. \x7d"

end CertificateAuthenticator

end WorkloadIdentity
