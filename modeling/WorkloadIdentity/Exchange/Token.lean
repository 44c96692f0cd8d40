import WorkloadIdentity.Exchange.Effect
import WorkloadIdentity.Settings.Derived

/-!
Proving an identity by a token that someone else has issued: one that lies in a file, or one that
the metadata server of the cloud gives to the instance. Either is sent to the broker in a form and
exchanged for the access token.
-/

namespace WorkloadIdentity

namespace Exchange

/-- Exchanges a token. -/
def ofToken (connector : Connector) (address token : String) : Exchange Unit :=
  obtain connector.client (Request.build .post address [] [] (.form [("jwt", token)]))

end Exchange

/-! ### From a file -/

/-- Who authenticates by a token in a file. -/
structure BearerAuthenticator where
  settings : BearerSettings
  connector : Connector

namespace BearerAuthenticator

/-- The token in a file without blanks around it. -/
def token (path : Path) (content : Except IoFault Bytes) : Except Failure String :=
  let unreadable (fault : IoFault) : Except Failure String := .error (.tokenUnreadable path fault)
  match content with
  | .error fault => unreadable fault
  | .ok bytes =>
    match Utf8.toString? bytes with
    | none => unreadable .notText
    | some text =>
      if Text.trimmed text = "" then unreadable (.described .invalidData "token file is empty")
      else .ok (Text.trimmed text)

def authenticate (a : BearerAuthenticator) : Exchange Unit := do
  let content ← Exchange.readFile a.settings.tokenPath
  let token ← Exchange.ofExcept (token a.settings.tokenPath content)
  Exchange.ofToken a.connector
    (Endpoint.exchange a.settings.baseUrl a.settings.account a.settings.identity) token

end BearerAuthenticator

/-! ### From the metadata server -/

/-- Who authenticates by a token of the metadata server. -/
structure MetadataAuthenticator where
  settings : MetadataSettings
  connector : Connector

namespace MetadataAuthenticator

/-- The header field without which the metadata server does not answer. -/
def flavorHeader : String × String := ("Metadata-Flavor", "Google")

/-- The request for a token of the instance with all its claims. -/
def tokenRequest (a : MetadataAuthenticator) : Except TransportFault Request :=
  Request.build .get a.settings.metadataUrl
    [("audience", a.settings.audience), ("format", "full")] [flavorHeader] .empty

/-- The token in an answer of the metadata server, without blanks around it. -/
def token (answer : Except TransportFault Response) : Except Failure String :=
  let unavailable (words : String) : Except Failure String := .error (.metadataUnavailable words)
  match answer with
  | .error fault => unavailable fault.message
  | .ok response =>
    match response.content with
    | .error fault => unavailable fault.message
    | .ok content =>
      if !response.isSuccess then
        unavailable ("metadata server returned status " ++
          String.ofList (Text.digits response.status))
      else
        let text := Text.trimmed (Utf8.toStringLossy content)
        if text = "" then unavailable "metadata server returned an empty token" else .ok text

/-- The broker takes the identity from the token, so the address names none. -/
def authenticate (a : MetadataAuthenticator) : Exchange Unit := do
  let answer ← Exchange.response a.connector.client a.tokenRequest
  let token ← Exchange.ofExcept (token answer)
  Exchange.ofToken a.connector
    (Endpoint.exchange a.settings.baseUrl a.settings.account none) token

end MetadataAuthenticator

end WorkloadIdentity
