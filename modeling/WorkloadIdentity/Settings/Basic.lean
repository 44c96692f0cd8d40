import WorkloadIdentity.Failure
import WorkloadIdentity.Number.Floating
import WorkloadIdentity.Text.Blank

/-!
The settings of the authenticator and their defaults, with the values that are derived from them:
the broker's address, the account, the identity and the authority's certificates.
-/

namespace WorkloadIdentity

/-- The generation of the broker's interface. Only the address of the authenticate request
differs. -/
inductive ApiVersion where
  | v4
  | v5
deriving DecidableEq, Repr

def ApiVersion.number : ApiVersion → Nat
  | .v4 => 4
  | .v5 => 5

/-- Reads a version: blanks at the ends and any number of letters `v` in front do not count. -/
def ApiVersion.parse (raw : String) : Except SettingsFault ApiVersion :=
  let text := (Text.trim raw.toList).dropWhile fun c => c == 'v' || c == 'V'
  if text = ['4'] then .ok .v4
  else if text = ['5'] then .ok .v5
  else .error (.unsupportedVersion (String.ofList text))

/-- How the process is deployed next to the workload. -/
inductive ContainerMode where
  /-- Authenticates once and exits. -/
  | init
  /-- Keeps the token fresh for as long as the pod lives. -/
  | sidecar
  /-- Part of the process of the application. -/
  | application
deriving DecidableEq, Repr

namespace ContainerMode

def all : List ContainerMode := [.init, .sidecar, .application]

def name : ContainerMode → String
  | init => "init"
  | sidecar => "sidecar"
  | application => "application"

def ofName? (name : String) : Option ContainerMode := all.find? fun mode => mode.name == name

/-- Reads a mode in any letter case and with blanks around it. -/
def parse (raw : String) : Except SettingsFault ContainerMode :=
  let text := String.ofList ((Text.trim raw.toList).map Char.toLower)
  match ofName? text with
  | some mode => .ok mode
  | none => .error (.unknownMode text)

def runsOnce (mode : ContainerMode) : Bool := mode == init

end ContainerMode

/-- When and how long a failed attempt is repeated. -/
structure RetrySettings where
  enabled : Bool
  /-- The most attempts of a cycle; zero for no such limit. -/
  maxAttempts : Nat
  initialBackoff : Duration
  maxBackoff : Duration
  multiplier : Floating
  /-- A cycle is given up after this long. -/
  maxElapsed : Option Duration
  /-- A single attempt is given up after this long. -/
  attemptTimeout : Option Duration
deriving DecidableEq, Repr

def RetrySettings.default : RetrySettings where
  enabled := true
  maxAttempts := 0
  initialBackoff := .ofSecs 1
  maxBackoff := .ofSecs 60
  multiplier := Floating.ofNat .single 2
  maxElapsed := some (.ofSecs 300)
  attemptTimeout := none

structure Settings where
  authnUrl : String
  account : String
  login : Option String
  /-- The strategy by name; without one it is the one that the address names. -/
  strategy : Option String
  version : ApiVersion
  /-- Certificates of the broker's authority. -/
  authorityText : Option String
  /-- A file of them, for when the text is not set. -/
  authorityPath : Option Path
  podName : Option String
  podNamespace : Option String
  /-- Where the broker delivers the client certificate. -/
  certificatePath : Path
  certificateRetryLimit : Nat
  certificatePollInterval : Duration
  /-- A client certificate counts as expired this long before its end. -/
  expiryBuffer : Duration
  bearerPath : Path
  metadataUrl : String
  /-- The first part of the audience that a metadata token is asked for. -/
  audienceRoot : String
  /-- Where the access token is kept; in memory when it is not set. -/
  tokenPath : Option Path
  refreshInterval : Duration
  requestTimeout : Duration
  mode : ContainerMode
  retry : RetrySettings
deriving DecidableEq, Repr

namespace Settings

def default : Settings where
  authnUrl := ""
  account := ""
  login := none
  strategy := none
  version := .v5
  authorityText := none
  authorityPath := none
  podName := none
  podNamespace := none
  certificatePath := "/etc/authn/ssl/client.pem"
  certificateRetryLimit := 10
  certificatePollInterval := .ofSecs 1
  expiryBuffer := .ofSecs 5
  bearerPath := "/var/run/secrets/kubernetes.io/serviceaccount/token"
  metadataUrl := "http://metadata/computeMetadata/v1/instance/service-accounts/default/identity"
  audienceRoot := "conjur"
  tokenPath := none
  refreshInterval := .ofSecs 360
  requestTimeout := .ofSecs 10
  mode := .sidecar
  retry := .default

end Settings

end WorkloadIdentity
