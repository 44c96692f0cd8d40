import WorkloadIdentity.Number.Word
import WorkloadIdentity.Settings.Basic
import WorkloadIdentity.Settings.Problem

/-!
Settings as values and back. `Settings.read` takes each setting from the field of its name: a
missing one keeps its default, an unknown one is skipped, and the first problem in the order of
the fields is the one that is told. A list gives the settings in the order in which they are
declared here. `Settings.written` is the record that a configuration is written as.
-/

namespace WorkloadIdentity

/-- Reads a value of a type. -/
abbrev Reader (α : Type) := Dialect → Value → Except Problem α

namespace Reader

def fail {α : Type} (mismatch : Mismatch) : Except Problem α := .error ⟨[], mismatch⟩

def wrongType {α : Type} (dialect : Dialect) (value : Value) (expected : String) :
    Except Problem α :=
  fail (.wrongType (dialect.describe value) expected)

/-- Problems below a key are told with the key in front. -/
def under {α : Type} (key : String) : Except Problem α → Except Problem α
  | .error problem => .error { problem with path := key :: problem.path }
  | ok => ok

/-- A text; a single character is one too. -/
def textAs (expected : String) : Reader String
  | _, .text s => .ok s
  | _, .char c => .ok c.toString
  | dialect, value => wrongType dialect value expected

def text : Reader String := textAs "a string"

def path : Reader Path := textAs "path string"

def optional {α : Type} (reader : Reader α) : Reader (Option α)
  | _, .null => .ok none
  | dialect, value => (reader dialect value).map some

def bool : Reader Bool
  | _, .bool b => .ok b
  | dialect, value => wrongType dialect value "a boolean"

/-- A count of at most thirty-two bits. -/
def count : Reader Nat
  | dialect, .int i =>
    if 0 ≤ i ∧ i < word32 then .ok i.toNat
    else if Dialect.isOversized i then wrongType dialect (.int i) "u32"
    else fail (.wrongValue (dialect.describe (.int i)) "u32")
  | _, .negativeZero => .ok 0
  | dialect, value => wrongType dialect value "u32"

/-- A factor of thirty-two bits. -/
def factor : Reader Floating
  | dialect, .int i =>
    if Dialect.isOversized i then wrongType dialect (.int i) "f32"
    else .ok (Floating.ofInt .single i)
  | _, .negativeZero => .ok (Floating.zero false)
  | _, .float x => .ok (x.convert .single)
  | dialect, value => wrongType dialect value "f32"

mutual

/-- The first whole number in a value that fits no word of 64 bits, with the keys that lead to
it. -/
def oversized? : Value → Option (List String × Int)
  | .int i => if Dialect.isOversized i then some ([], i) else none
  | .list items => oversizedItem? 0 items
  | .record fields => oversizedField? fields
  | _ => none

def oversizedItem? (index : Nat) : List Value → Option (List String × Int)
  | [] => none
  | item :: rest =>
    match oversized? item with
    | some (path, i) => some (String.ofList (Text.digits index) :: path, i)
    | none => oversizedItem? (index + 1) rest

def oversizedField? : List (String × Value) → Option (List String × Int)
  | [] => none
  | (name, value) :: rest =>
    match oversized? value with
    | some (path, i) => some (name :: path, i)
    | none => oversizedField? rest

end

/-- A value that may be a number or a text, as a text. Numbers that fit no word are found first,
wherever in the value they stand; `name` is what the choice of the two is called. -/
def numberOrText (name : String) : Reader String := fun dialect value =>
  match oversized? value with
  | some (path, i) => .error ⟨path, .wrongType (dialect.describe (.int i)) "any value"⟩
  | none =>
    match value with
    | .int i =>
      if 0 ≤ i then .ok (String.ofList (Text.digits i.toNat))
      else fail (.refused ("data did not match any variant of untagged enum " ++ name))
    | .negativeZero => .ok "0"
    | .text s => .ok s
    | _ => fail (.refused ("data did not match any variant of untagged enum " ++ name))

/-- A number of seconds or a text with a unit. -/
def duration : Reader Duration := fun dialect value => do
  let text ← numberOrText "RawDuration" dialect value
  match Duration.parse text with
  | .ok d => .ok d
  | .error fault => fail (.refused fault.message)

def version : Reader ApiVersion := fun dialect value => do
  let text ← numberOrText "Raw" dialect value
  match ApiVersion.parse text with
  | .ok v => .ok v
  | .error fault => fail (.refused (Failure.settings fault).message)

def modeNamed (name : String) : Except Problem ContainerMode :=
  match ContainerMode.ofName? name with
  | some mode => .ok mode
  | none => fail (.unknownVariant name (ContainerMode.all.map ContainerMode.name))

/-- The mode that a record's field names; the field holds nothing. -/
def modeOfField (dialect : Dialect) (name : String) (value : Value) :
    Except Problem ContainerMode := do
  let mode ← modeNamed name
  match value with
  | .null => .ok mode
  | other => under name (wrongType dialect other "unit")

/-- A mode by its name, or as a record with a field of that name. -/
def mode : Reader ContainerMode
  | _, .text s => modeNamed s
  | .json, .record [(name, value)] => modeOfField .json name value
  | .json, .record fields =>
    fail (.wrongValue (Dialect.json.describe (.record fields)) "map with a single key")
  | .json, other => wrongType .json other "string or map"
  | .layered, .record ((name, value) :: _) => modeOfField .layered name value
  | .layered, .record [] => wrongType .layered (.record []) "enum"
  | .layered, .char c => wrongType .layered (.text c.toString) "enum ContainerMode"
  | .layered, other => wrongType .layered other "enum ContainerMode"

end Reader

/-! ### Records of settings -/

/-- A setting of a record: the name of its field, and how a value is put into the record. -/
structure Setting (σ : Type) where
  key : String
  put : Dialect → σ → Value → Except Problem σ

namespace Setting

variable {σ α : Type}

/-- A setting that is read by a reader and stored by an update. -/
def of (key : String) (reader : Reader α) (store : σ → α → σ) : Setting σ where
  key := key
  put dialect s value := (reader dialect value).map (store s)

/-- Puts the fields of a record into `s`, one after the other. -/
def putFields (settings : List (Setting σ)) (dialect : Dialect) (s : σ) :
    List (String × Value) → Except Problem σ
  | [] => .ok s
  | (name, value) :: rest =>
    match settings.find? (·.key == name) with
    | some setting => do
      let s ← Reader.under name (setting.put dialect s value)
      putFields settings dialect s rest
    | none => putFields settings dialect s rest

/-- Puts the items of a list into `s`, the first into the first setting and so on. -/
def putItems (dialect : Dialect) (s : σ) (index : Nat) :
    List (Setting σ) → List Value → Except Problem σ
  | _, [] => .ok s
  | [], _ => .ok s
  | setting :: settings, value :: rest => do
    let s ← Reader.under (String.ofList (Text.digits index)) (setting.put dialect s value)
    putItems dialect s (index + 1) settings rest

/-- Reads a record, or a list of its settings in order, on top of `base`. A JSON list has no more
items than there are settings. -/
def readRecord (name : String) (settings : List (Setting σ)) (base : σ) : Reader σ
  | dialect, .record fields => putFields settings dialect base fields
  | dialect, .list items => do
    let s ← putItems dialect base 0 settings items
    if dialect = .json ∧ settings.length < items.length then
      Reader.fail (.tooManyItems items.length)
    else .ok s
  | dialect, value => Reader.wrongType dialect value ("struct " ++ name)

end Setting

namespace RetrySettings

def settings : List (Setting RetrySettings) := [
  .of "enabled" Reader.bool fun s v => { s with enabled := v },
  .of "max_attempts" Reader.count fun s v => { s with maxAttempts := v },
  .of "initial_backoff" Reader.duration fun s v => { s with initialBackoff := v },
  .of "max_backoff" Reader.duration fun s v => { s with maxBackoff := v },
  .of "multiplier" Reader.factor fun s v => { s with multiplier := v },
  .of "max_elapsed_time" (Reader.optional Reader.duration) fun s v => { s with maxElapsed := v },
  .of "attempt_timeout" (Reader.optional Reader.duration) fun s v => { s with attemptTimeout := v }]

/-- What a record of retry settings starts from: the defaults, without a limit on the elapsed
time, since an optional time that a record leaves out is not set. -/
def base : RetrySettings := { default with maxElapsed := none }

def read : Reader RetrySettings := Setting.readRecord "RetryConfig" settings base

/-- A number as a value; what is no finite number is written as none. -/
def writtenFactor (x : Floating) : Value :=
  match x with
  | .finite .. => .float x
  | .nan | .infinite _ => .null

def written (s : RetrySettings) : Value := .record [
  ("attempt_timeout", (s.attemptTimeout.map fun d => Value.text d.written).getD .null),
  ("enabled", .bool s.enabled),
  ("initial_backoff", .text s.initialBackoff.written),
  ("max_attempts", .int s.maxAttempts),
  ("max_backoff", .text s.maxBackoff.written),
  ("max_elapsed_time", (s.maxElapsed.map fun d => Value.text d.written).getD .null),
  ("multiplier", writtenFactor s.multiplier)]

end RetrySettings

namespace Settings

def settings : List (Setting Settings) := [
  .of "authn_url" Reader.text fun s v => { s with authnUrl := v },
  .of "account" Reader.text fun s v => { s with account := v },
  .of "authn_login" (Reader.optional Reader.text) fun s v => { s with login := v },
  .of "authn_type" (Reader.optional Reader.text) fun s v => { s with strategy := v },
  .of "version" Reader.version fun s v => { s with version := v },
  .of "ssl_certificate" (Reader.optional Reader.text) fun s v => { s with authorityText := v },
  .of "ssl_certificate_path" (Reader.optional Reader.path) fun s v => { s with authorityPath := v },
  .of "pod_name" (Reader.optional Reader.text) fun s v => { s with podName := v },
  .of "pod_namespace" (Reader.optional Reader.text) fun s v => { s with podNamespace := v },
  .of "client_cert_path" Reader.path fun s v => { s with certificatePath := v },
  .of "client_cert_retry_count_limit" Reader.count fun s v => { s with certificateRetryLimit := v },
  .of "client_cert_poll_interval" Reader.duration
    fun s v => { s with certificatePollInterval := v },
  .of "cert_expiry_buffer" Reader.duration fun s v => { s with expiryBuffer := v },
  .of "jwt_token_path" Reader.path fun s v => { s with bearerPath := v },
  .of "gcp_metadata_url" Reader.text fun s v => { s with metadataUrl := v },
  .of "gcp_audience_prefix" Reader.text fun s v => { s with audienceRoot := v },
  .of "access_token_path" (Reader.optional Reader.path) fun s v => { s with tokenPath := v },
  .of "token_refresh_interval" Reader.duration fun s v => { s with refreshInterval := v },
  .of "request_timeout" Reader.duration fun s v => { s with requestTimeout := v },
  .of "container_mode" Reader.mode fun s v => { s with mode := v },
  .of "retry" RetrySettings.read fun s v => { s with retry := v }]

def read : Reader Settings := Setting.readRecord "Config" settings default

/-- An optional text as a value. -/
def optionalText (s : Option String) : Value := (s.map Value.text).getD .null

/-- The record of a configuration, with its fields in the order of their names. -/
def written (s : Settings) : Value := .record [
  ("access_token_path", optionalText s.tokenPath),
  ("account", .text s.account),
  ("authn_login", optionalText s.login),
  ("authn_type", optionalText s.strategy),
  ("authn_url", .text s.authnUrl),
  ("cert_expiry_buffer", .text s.expiryBuffer.written),
  ("client_cert_path", .text s.certificatePath),
  ("client_cert_poll_interval", .text s.certificatePollInterval.written),
  ("client_cert_retry_count_limit", .int s.certificateRetryLimit),
  ("container_mode", .text s.mode.name),
  ("gcp_audience_prefix", .text s.audienceRoot),
  ("gcp_metadata_url", .text s.metadataUrl),
  ("jwt_token_path", .text s.bearerPath),
  ("pod_name", optionalText s.podName),
  ("pod_namespace", optionalText s.podNamespace),
  ("request_timeout", .text s.requestTimeout.written),
  ("retry", s.retry.written),
  ("ssl_certificate", optionalText s.authorityText),
  ("ssl_certificate_path", optionalText s.authorityPath),
  ("token_refresh_interval", .text s.refreshInterval.written),
  ("version", .int s.version.number)]

end Settings

end WorkloadIdentity
