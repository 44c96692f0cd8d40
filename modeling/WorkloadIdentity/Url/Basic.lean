import WorkloadIdentity.Text.Utf8

/-!
URLs as they are after parsing: a scheme, an authority for those that have one, a path that is
either a list of segments or a plain text, a query and a fragment. Everything but the host is kept
as it is sent, with the percent signs in place.
-/

namespace WorkloadIdentity

/-- Why a text is no URL. -/
inductive UrlFault where
  | relativeWithoutBase
  | emptyHost
  | invalidPort
  | invalidIpv4
  | invalidIpv6
  | invalidName
  | invalidHostCharacter
deriving DecidableEq, Repr

def UrlFault.message : UrlFault → String
  | .relativeWithoutBase => "relative URL without a base"
  | .emptyHost => "empty host"
  | .invalidPort => "invalid port number"
  | .invalidIpv4 => "invalid IPv4 address"
  | .invalidIpv6 => "invalid IPv6 address"
  | .invalidName => "invalid international domain name"
  | .invalidHostCharacter => "invalid domain character"

namespace Url

/-- The host that a request goes to. -/
inductive Host where
  /-- A name, or for schemes without rules of their own any text. -/
  | name (text : List Char)
  | ipv4 (address : Nat)
  | ipv6 (pieces : List Nat)
deriving DecidableEq, Repr

/-- Who answers for the URL. -/
structure Authority where
  username : List Char
  secret : Option (List Char)
  host : Host
  /-- A port other than the one of the scheme. -/
  port : Option Nat
deriving DecidableEq, Repr

/-- What the authority is asked for. -/
inductive Path where
  /-- Segments, each with a slash before it. -/
  | segments (parts : List (List Char))
  /-- The text behind the scheme of a URL without authority and slash. -/
  | plain (text : List Char)
deriving DecidableEq, Repr

end Url

structure Url where
  scheme : List Char
  authority : Option Url.Authority
  path : Url.Path
  query : Option (List Char)
  fragment : Option (List Char)
deriving DecidableEq, Repr

namespace Url

/-- Schemes with a host and with rules of their own for slashes. -/
def isSpecial (scheme : List Char) : Bool :=
  ["http", "https", "ws", "wss", "ftp", "file"].any fun s => s.toList == scheme

/-- The port that a scheme implies. -/
def defaultPort? (scheme : List Char) : Option Nat :=
  let is (s : String) : Bool := s.toList == scheme
  if is "http" || is "ws" then some 80
  else if is "https" || is "wss" then some 443
  else if is "ftp" then some 21
  else none

/-- The segments of the path, if it has any slash. -/
def pathSegments? (url : Url) : Option (List (List Char)) :=
  match url.path with
  | .segments [] => none
  | .segments parts => some parts
  | .plain _ => none

/-- The path as it is sent. -/
def Path.text : Path → List Char
  | .segments parts => parts.flatMap ('/' :: ·)
  | .plain text => text

/-- What the first line of a request names: the path and the query. -/
def target (url : Url) : List Char :=
  let path := url.path.text
  let path := if path.isEmpty then ['/'] else path
  match url.query with
  | some query => path ++ '?' :: query
  | none => path

end Url

end WorkloadIdentity
