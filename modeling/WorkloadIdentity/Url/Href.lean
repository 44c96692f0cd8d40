import WorkloadIdentity.Text.Decimal
import WorkloadIdentity.Url.Parser

/-!
URLs written out, and the changes that are made to one before it is requested.
-/

namespace WorkloadIdentity.Url

/-! ### Writing -/

/-- The length of a run of zeros at the beginning. -/
def zeros (pieces : List Nat) : Nat := (pieces.takeWhile (· == 0)).length

/-- Where the first of the longest runs of zeros begins and how long it is, among the pieces from
number `start` on. -/
def longestZeros (start : Nat) : List Nat → Nat × Nat
  | [] => (start, 0)
  | piece :: rest =>
    let here := zeros (piece :: rest)
    let (place, length) := longestZeros (start + 1) rest
    if length ≤ here then (start, here) else (place, length)

def hexPieces (pieces : List Nat) : List Char :=
  Text.join [':'] (pieces.map (Nat.toDigits 16))

/-- An IPv6 address. The first of the longest runs of two zeros or more is left out. -/
def ipv6Text (pieces : List Nat) : List Char :=
  let (place, length) := longestZeros 0 pieces
  if length < 2 then hexPieces pieces
  else hexPieces (pieces.take place) ++ [':', ':'] ++ hexPieces (pieces.drop (place + length))

def ipv4Text (address : Nat) : List Char :=
  Text.join ['.'] ([24, 16, 8, 0].map fun shift => Text.digits (address / Nat.pow 2 shift % 256))

def Host.text : Host → List Char
  | .name text => text
  | .ipv4 address => ipv4Text address
  | .ipv6 pieces => '[' :: ipv6Text pieces ++ [']']

def Authority.text (a : Authority) : List Char :=
  let user :=
    match a.username, a.secret with
    | [], none => []
    | name, none => name ++ ['@']
    | name, some secret => name ++ ':' :: secret ++ ['@']
  let port :=
    match a.port with
    | some port => ':' :: Text.digits port
    | none => []
  user ++ a.host.text ++ port

/-- What stands between the scheme and the path. Without an authority, a path that begins with two
slashes has a dot in front of it, or else it would be read as one. -/
def beforePath (url : Url) : List Char :=
  match url.authority, url.path with
  | some authority, _ => "//".toList ++ authority.text
  | none, .segments ([] :: _ :: _) =>
    if url.scheme == "file".toList then "//".toList else "/.".toList
  | none, _ => if url.scheme == "file".toList then "//".toList else []

/-- The URL as a text. -/
def href (url : Url) : List Char :=
  let query := (url.query.map ('?' :: ·)).getD []
  let fragment := (url.fragment.map ('#' :: ·)).getD []
  url.scheme ++ ':' :: url.beforePath ++ url.path.text ++ query ++ fragment

/-! ### Changing -/

def hasHost (url : Url) : Bool :=
  match url.authority with
  | some authority => authority.host != .name []
  | none => false

/-- The URL without a user and a secret. -/
def withoutUser (url : Url) : Url :=
  { url with authority := url.authority.map fun a => { a with username := [], secret := none } }

/-- Appends pairs to the query, in the form encoding. -/
def addQuery (url : Url) (pairs : List (List Char × List Char)) : Url :=
  let written := pairs.map fun (name, value) => formPair name value
  let old := (url.query.filter (!·.isEmpty)).toList
  let query := Text.join ['&'] (old ++ written)
  { url with query := if query.isEmpty then none else some query }

end WorkloadIdentity.Url
