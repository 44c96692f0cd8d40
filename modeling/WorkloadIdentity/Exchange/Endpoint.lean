import WorkloadIdentity.Settings.Basic
import WorkloadIdentity.Url.Percent

/-!
Where the broker is asked. An identity is one segment of the address, in the form encoding; an
account stands there as it is.
-/

namespace WorkloadIdentity.Endpoint

/-- An identity as a segment. -/
def encodedIdentity (identity : String) : String :=
  String.ofList (Url.formEncode identity.toList)

/-- Where a signing request goes. -/
def login (baseUrl : String) : String := baseUrl ++ "/inject_client_cert"

/-- Where a client with a certificate gets its token. -/
def authenticate (baseUrl account identity : String) : ApiVersion → String
  | .v5 => baseUrl ++ "/" ++ account ++ "/" ++ encodedIdentity identity ++ "/authenticate"
  | .v4 => baseUrl ++ "/users/" ++ encodedIdentity identity ++ "/authenticate"

/-- Where a token is exchanged for an access token. Without an identity the broker takes it from
the token. -/
def exchange (baseUrl account : String) : Option String → String
  | some identity => baseUrl ++ "/" ++ account ++ "/" ++ encodedIdentity identity ++ "/authenticate"
  | none => baseUrl ++ "/" ++ account ++ "/authenticate"

end WorkloadIdentity.Endpoint
