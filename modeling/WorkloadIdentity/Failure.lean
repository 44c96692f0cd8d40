import WorkloadIdentity.Duration
import WorkloadIdentity.Fault
import WorkloadIdentity.HostIdentity
import WorkloadIdentity.Pem.Section
import WorkloadIdentity.Rejection
import WorkloadIdentity.Url.Basic

/-!
Everything that can go wrong between a configuration and a stored access token. `Failure.message`
is what a person reads, `Failure.isRetryable` what the retry driver asks,
`Failure.isCertificateExpired` what makes the certificate strategy log in again.
-/

namespace WorkloadIdentity

/-- Faults of the settings. -/
inductive SettingsFault where
  | described (words : String)
  | fileNotFound (path : Path)
  | urlMissing
  | urlInvalid (raw : String) (fault : UrlFault)
  | urlNotSecure (raw : String)
  | accountMissing
  | authorityMissing
  | unreadable (path : Path) (fault : IoFault)
  | podFieldMissing (name : String)
  | unsupportedVersion (text : String)
  | unknownMode (text : String)
deriving DecidableEq, Repr

def SettingsFault.message : SettingsFault → String
  | .described words => words
  | .fileNotFound path => "Config file not found: " ++ path
  | .urlMissing => "authn_url is required"
  | .urlInvalid raw fault => "Invalid authn_url '" ++ raw ++ "': " ++ fault.message
  | .urlNotSecure raw => "authn_url '" ++ raw ++ "' must use https"
  | .accountMissing => "account is required"
  | .authorityMissing => "Either ssl_certificate or ssl_certificate_path must be set"
  | .unreadable path fault => "Cannot read '" ++ path ++ "': " ++ fault.message
  | .podFieldMissing name => name ++ " is required for certificate authentication"
  | .unsupportedVersion text => "Unsupported broker version '" ++ text ++ "'"
  | .unknownMode text => "Unknown container mode '" ++ text ++ "'"

/-- Faults of certificates, keys and signing requests. -/
inductive CertificateFault where
  | described (words : String)
  | noCertificate
  | noPrivateKey
  | emptyChain
  /-- Framing or encoding around a certificate. -/
  | badCertificateText (fault : PemFault)
  /-- Framing or encoding around a private key. -/
  | badKeyText (fault : PemFault)
  | badCertificate
  /-- A private key of a kind that cannot sign here. -/
  | unsupportedKey
  /-- A name that is no ASCII text and so cannot stand in a certificate. -/
  | badUri (uri : String)
deriving DecidableEq, Repr

def CertificateFault.message : CertificateFault → String
  | .described words => words
  | .noCertificate => "No certificates found in PEM data"
  | .noPrivateKey => "No private key found in PEM data"
  | .emptyChain => "Empty certificate chain"
  | .badCertificateText fault => "Failed to parse certificate PEM: " ++ fault.message
  | .badKeyText fault => "Failed to parse private key PEM: " ++ fault.message
  | .badCertificate => "Failed to parse client certificate: malformed structure"
  | .unsupportedKey => "Unsupported client key: neither RSA, ECDSA nor Ed25519"
  | .badUri uri => "Invalid SAN URI '" ++ uri ++ "': Invalid IA5String: '" ++ uri ++ "'"

/-- Why there is no such request. -/
inductive RequestFault where
  /-- The address is no URL. -/
  | badAddress (fault : UrlFault)
  /-- A header field has a control in it. -/
  | badHeader
  /-- The URL has no host, or another scheme than HTTP. -/
  | badScheme (url : String)
  /-- The URL is too long, or has a host that cannot stand in a request. -/
  | badUrl (url : String)
deriving DecidableEq, Repr

def RequestFault.message : RequestFault → String
  | .badAddress fault => fault.message
  | .badHeader => "failed to parse header value"
  | .badScheme _ => "URL scheme is not allowed"
  | .badUrl _ => "Parsed Url is not a valid Uri"

/-- The URL, if the address is one and at fault. -/
def RequestFault.url? : RequestFault → Option String
  | .badScheme url | .badUrl url => some url
  | .badAddress _ | .badHeader => none

/-- Faults of the way to the broker and back. -/
inductive TransportFault where
  /-- The request could not be sent, or no answer came. -/
  | notSent
  /-- The answer broke off or is no text. -/
  | badBody
  /-- There is no such request. -/
  | notBuilt (fault : RequestFault)
deriving DecidableEq, Repr

def TransportFault.message : TransportFault → String
  | .notSent => "error sending request"
  | .badBody => "error decoding response body"
  | .notBuilt fault =>
    match fault.url? with
    | some url => "builder error for url (" ++ url ++ ")"
    | none => "builder error"

/-- What is named again of a fault when the whole chain is shown. Of those on the way, whose causes
are outside of the program, it is cut off. -/
def TransportFault.causes : TransportFault → List String
  | .notSent | .badBody => []
  | .notBuilt fault => [message (.notBuilt fault), fault.message]

/-- The ways in which an authentication fails. -/
inductive Failure where
  | settings (fault : SettingsFault)
  | invalidIdentity (identity : String) (fault : IdentityFault)
  | untrustedAuthority (words : String)
  | unsupportedStrategy (declared : String)
  | loginFailed (words : String)
  | certificateNotDelivered (path : Path) (waited : Duration)
  | certificate (fault : CertificateFault)
  | rejected (rejection : Rejection)
  | tokenUnreadable (path : Path) (fault : IoFault)
  | metadataUnavailable (words : String)
  | emptyPayload
  | noData
  | tokenFileMissing (path : Path)
  | io (fault : IoFault)
  | transport (fault : TransportFault)
  | cancelled
deriving DecidableEq, Repr

namespace Failure

def message : Failure → String
  | settings fault => "Configuration error: " ++ fault.message
  | invalidIdentity identity fault => "Invalid identity '" ++ identity ++ "': " ++ fault.message
  | untrustedAuthority words => "Untrusted CA certificate: " ++ words
  | unsupportedStrategy declared => "Unsupported authentication type: " ++ declared
  | loginFailed words => "Login failed: " ++ words
  | certificateNotDelivered path waited =>
    "Client certificate not delivered to '" ++ path ++ "' after " ++ waited.shown
  | certificate fault => "Certificate error: " ++ fault.message
  | rejected rejection => "Authenticate failed: " ++ rejection.shown
  | tokenUnreadable path fault => "Token file '" ++ path ++ "' is unreadable: " ++ fault.message
  | metadataUnavailable words => "Metadata endpoint unavailable: " ++ words
  | emptyPayload => "Access token payload is empty"
  | noData => "Access token store holds no data"
  | tokenFileMissing path => "Access token file '" ++ path ++ "' does not exist"
  | io fault => "IO error: " ++ fault.message
  | transport fault => "HTTP error: " ++ fault.message
  | cancelled => "Authentication cancelled"

/-- The causes that lie behind a failure, the nearest first. Each is named again when the whole
chain is shown. -/
def causes : Failure → List String
  | tokenUnreadable _ fault => [fault.message]
  | io fault => [fault.message]
  | transport fault => fault.causes
  | _ => []

/-- Settings do not mend themselves, so their faults are final; all else is worth another
attempt. -/
def isRetryable : Failure → Bool
  | settings _ | invalidIdentity .. | untrustedAuthority _ | unsupportedStrategy _ => false
  | _ => true

/-- The broker takes the client certificate for expired. -/
def isCertificateExpired : Failure → Bool
  | rejected rejection => rejection.isCertificateExpired
  | _ => false

end Failure

end WorkloadIdentity
