import WorkloadIdentity.Settings.Basic
import WorkloadIdentity.Url.Parser

/-!
The ways of proving an identity. A strategy is declared by its name, alone or followed by a slash
and anything, or else named by a segment of the broker's address.
-/

namespace WorkloadIdentity

inductive Strategy where
  /-- A certificate, obtained by a signing request and presented in mutual TLS. -/
  | certificate
  /-- A bearer token from a file. -/
  | bearer
  /-- An identity token of the cloud instance. -/
  | metadata
deriving DecidableEq, Repr

namespace Strategy

def all : List Strategy := [.certificate, .bearer, .metadata]

def name : Strategy → String
  | certificate => "authn-k8s"
  | bearer => "authn-jwt"
  | metadata => "authn-gcp"

/-- Whether a text is the strategy's name, or begins with it and a slash. -/
def isDeclaredBy (strategy : Strategy) (text : List Char) : Bool :=
  match Text.after? strategy.name.toList text with
  | some rest => rest.isEmpty || rest.head? == some '/'
  | none => false

/-- The strategy that a text declares. -/
def resolve (declared : String) : Except Failure Strategy :=
  let text := Text.trim declared.toList
  match all.find? fun strategy => strategy.isDeclaredBy text with
  | some strategy => .ok strategy
  | none => .error (.unsupportedStrategy (String.ofList text))

/-- The strategy that the first segment to do so declares. -/
def ofSegments? (segments : List (List Char)) : Option Strategy :=
  segments.findSome? fun segment => (resolve (String.ofList segment)).toOption

/-- The strategy that the path of an address names. -/
def ofUrl (raw : String) : Except Failure Strategy :=
  match Url.parse raw.toList with
  | .error fault => .error (.settings (.urlInvalid raw fault))
  | .ok url =>
    match ofSegments? ((url.pathSegments?).getD []) with
    | some strategy => .ok strategy
    | none => .error (.unsupportedStrategy raw)

/-- The declared strategy, or the one that the address names. -/
def ofSettings (s : Settings) : Except Failure Strategy :=
  match Text.nonBlank? s.strategy with
  | some declared => resolve declared
  | none => ofUrl (Text.trimmed s.authnUrl)

end Strategy

end WorkloadIdentity
