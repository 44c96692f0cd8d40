import WorkloadIdentity.Exchange.Certificate
import WorkloadIdentity.Exchange.Token
import WorkloadIdentity.Strategy

/-!
An authenticator of any strategy, made from the settings.
-/

namespace WorkloadIdentity

inductive Authenticator where
  | certificate (a : CertificateAuthenticator)
  | bearer (a : BearerAuthenticator)
  | metadata (a : MetadataAuthenticator)

namespace Authenticator

def strategy : Authenticator → Strategy
  | certificate _ => .certificate
  | bearer _ => .bearer
  | metadata _ => .metadata

/-- The connector that the settings of a strategy ask for. -/
def connector (authority : Bytes) (timeout : Duration) : Except Failure Connector :=
  (Connector.ofText authority).map fun connector => connector.withTimeout timeout

/-- Makes the authenticator of the strategy that the settings name; `key` is what a certificate
would be asked for with. -/
def ofSettings (s : Settings) (fs : FileSystem) (key : SessionKey) :
    Except Failure Authenticator := do
  match ← Strategy.ofSettings s with
  | .certificate =>
    let settings ← CertificateSettings.ofSettings s fs
    let connector ← connector settings.authority settings.requestTimeout
    return .certificate { settings, connector, key }
  | .bearer =>
    let settings ← BearerSettings.ofSettings s fs
    let connector ← connector settings.authority settings.requestTimeout
    return .bearer { settings, connector }
  | .metadata =>
    let settings ← MetadataSettings.ofSettings s fs
    let connector ← connector settings.authority settings.requestTimeout
    return .metadata { settings, connector }

/-- Gets an access token and hands it over. Only a certificate needs a session, which may have
been kept from an earlier time. -/
def authenticate (a : Authenticator) (kept : Option Session) : Exchange Unit :=
  match a with
  | certificate a => a.authenticate kept
  | bearer a => a.authenticate
  | metadata a => a.authenticate

end Authenticator

end WorkloadIdentity
