import WorkloadIdentity.Exchange.Client
import WorkloadIdentity.Url.Href

/-!
Requests and what comes back. `Request.build` refuses what cannot be sent at all: an address that
is no URL or has no host, another scheme than HTTP, and header fields with controls in them.
-/

namespace WorkloadIdentity

inductive Method where
  | get
  | post
deriving DecidableEq, Repr

def Method.name : Method → String
  | .get => "GET"
  | .post => "POST"

/-- What a request brings along. -/
inductive Body where
  | empty
  /-- Pairs of names and values. -/
  | form (pairs : List (String × String))
  | signingRequest (request : SigningRequest)
deriving DecidableEq, Repr

structure Request where
  method : Method
  url : Url
  headers : List (String × String)
  body : Body
deriving DecidableEq, Repr

/-- A status and, unless it broke off, what came with it. -/
structure Response where
  status : Nat
  body : Option Bytes
deriving DecidableEq, Repr

def Response.isSuccess (r : Response) : Bool := 200 ≤ r.status && r.status < 300

/-- What came with a response. -/
def Response.content (r : Response) : Except TransportFault Bytes :=
  match r.body with
  | some content => .ok content
  | none => .error .badBody

/-- The form that pairs are sent in. -/
def Body.formText (pairs : List (String × String)) : String :=
  String.ofList (Text.join ['&'] (pairs.map fun (name, value) =>
    Url.formPair name.toList value.toList))

/-- What stands in the header about the body. -/
def Body.contentType? : Body → Option String
  | .empty => none
  | .form _ => some "application/x-www-form-urlencoded"
  | .signingRequest _ => some "text/plain"

namespace Request

/-- Header fields have no controls, apart from the tab. -/
def isHeaderText (text : String) : Bool :=
  text.toList.all fun c => c == '\t' || (0x20 ≤ c.toNat && c.toNat != 0x7F)

/-- The longest address that fits into the first line of a request. -/
def maxAddress : Nat := 65534

/-- Characters that a host may be parsed with but not requested by. -/
def isUnsendable (c : Char) : Bool := c == '"' || c == '\x60' || c == '\x7b' || c == '\x7d'

/-- Requests go over HTTP. -/
def hasWebScheme (url : Url) : Bool := url.scheme == "http".toList || url.scheme == "https".toList

/-- The URL can stand in a request. -/
def isSendable (url : Url) : Bool :=
  hasWebScheme url && url.href.length ≤ maxAddress &&
    !((url.authority.map (·.host.text)).getD []).any isUnsendable

/-- The request to an address with a query behind the one that the address has already. -/
def build (method : Method) (address : String) (query headers : List (String × String))
    (body : Body) : Except TransportFault Request :=
  match Url.parse address.toList with
  | .error fault => .error (.notBuilt (.badAddress fault))
  | .ok url =>
    if !url.hasHost then .error (.notBuilt (.badScheme (String.ofList url.href)))
    else if !headers.all fun (_, value) => isHeaderText value then .error (.notBuilt .badHeader)
    else
      let pairs := query.map fun (name, value) => (name.toList, value.toList)
      let url := if query.isEmpty then url.withoutUser else url.withoutUser.addQuery pairs
      if !hasWebScheme url then .error (.notBuilt (.badScheme (String.ofList url.href)))
      else if !isSendable url then .error (.notBuilt (.badUrl (String.ofList url.href)))
      else .ok { method, url, headers, body }

end Request

end WorkloadIdentity
