import WorkloadIdentity.FileSystem
import WorkloadIdentity.Strategy

/-!
What the strategies take from the settings. Each of them names its needs in a fixed order, and the
first one that is not met is the failure.
-/

namespace WorkloadIdentity

namespace Settings

/-- The host identity, if one is configured. -/
def identity? (s : Settings) : Option String := Text.nonBlank? s.login

/-- The broker's address without blanks around it and slashes at its end. It is kept as it is
written, but it has to be a URL, and a secure one. -/
def baseUrl (s : Settings) : Except Failure String :=
  let trimmed := Text.trim s.authnUrl.toList
  let raw := String.ofList (trimmed.reverse.dropWhile (· == '/')).reverse
  if raw = "" then .error (.settings .urlMissing)
  else
    match Url.parse raw.toList with
    | .error fault => .error (.settings (.urlInvalid raw fault))
    | .ok url =>
      if url.scheme = "https".toList then .ok raw else .error (.settings (.urlNotSecure raw))

def requiredAccount (s : Settings) : Except Failure String :=
  let account := Text.trimmed s.account
  if account = "" then .error (.settings .accountMissing) else .ok account

/-- A file of certificates. -/
def readCertificates (fs : FileSystem) (path : Path) : Except Failure Bytes :=
  (fs.read path).mapError fun fault => .settings (.unreadable path fault)

/-- The certificates of the broker's authority: the text that is set, or else the content of the
file. -/
def authority (s : Settings) (fs : FileSystem) : Except Failure Bytes :=
  match s.authorityText.filter fun text => Text.trimmed text ≠ "" with
  | some text => .ok (Utf8.ofString text)
  | none =>
    match s.authorityPath with
    | some path => readCertificates fs path
    | none => .error (.settings .authorityMissing)

end Settings

/-- A setting of the pod that has to be there. -/
def requiredPodField (value : Option String) (name : String) : Except Failure String :=
  match Text.nonBlank? value with
  | some text => .ok text
  | none => .error (.settings (.podFieldMissing name))

/-- What the certificate strategy needs. -/
structure CertificateSettings where
  baseUrl : String
  account : String
  identity : HostIdentity
  authority : Bytes
  podName : String
  podNamespace : String
  certificatePath : Path
  retryLimit : Nat
  pollInterval : Duration
  expiryBuffer : Duration
  version : ApiVersion
  requestTimeout : Duration

def CertificateSettings.ofSettings (s : Settings) (fs : FileSystem) :
    Except Failure CertificateSettings := do
  let raw ←
    match s.identity? with
    | some raw => pure raw
    | none => throw (.invalidIdentity "" .neededForCertificate)
  let identity ← (HostIdentity.parse raw).mapError (.invalidIdentity raw)
  let baseUrl ← s.baseUrl
  let account ← s.requiredAccount
  let authority ← s.authority fs
  let podName ← requiredPodField s.podName "pod_name"
  let podNamespace ← requiredPodField s.podNamespace "pod_namespace"
  return {
    baseUrl, account, identity, authority, podName, podNamespace
    certificatePath := s.certificatePath
    retryLimit := s.certificateRetryLimit
    pollInterval := s.certificatePollInterval
    expiryBuffer := s.expiryBuffer
    version := s.version
    requestTimeout := s.requestTimeout }

/-- What the bearer strategy needs. Without an identity the broker takes it from the token. -/
structure BearerSettings where
  baseUrl : String
  account : String
  identity : Option String
  tokenPath : Path
  authority : Bytes
  requestTimeout : Duration

def BearerSettings.ofSettings (s : Settings) (fs : FileSystem) : Except Failure BearerSettings := do
  let baseUrl ← s.baseUrl
  let account ← s.requiredAccount
  let authority ← s.authority fs
  return {
    baseUrl, account, authority
    identity := s.identity?
    tokenPath := s.bearerPath
    requestTimeout := s.requestTimeout }

/-- What the metadata strategy needs. -/
structure MetadataSettings where
  baseUrl : String
  account : String
  identity : String
  metadataUrl : String
  audienceRoot : String
  authority : Bytes
  requestTimeout : Duration

namespace MetadataSettings

def ofSettings (s : Settings) (fs : FileSystem) : Except Failure MetadataSettings := do
  let identity ←
    match s.identity? with
    | some raw => pure raw
    | none => throw (.invalidIdentity "" .neededForMetadata)
  let baseUrl ← s.baseUrl
  let account ← s.requiredAccount
  let authority ← s.authority fs
  return {
    baseUrl, account, identity, authority
    metadataUrl := s.metadataUrl
    audienceRoot := String.ofList (s.audienceRoot.toList.reverse.dropWhile (· == '/')).reverse
    requestTimeout := s.requestTimeout }

/-- The audience that the token is asked for. -/
def audience (m : MetadataSettings) : String :=
  m.audienceRoot ++ "/" ++ m.account ++ "/" ++ m.identity

end MetadataSettings

end WorkloadIdentity
