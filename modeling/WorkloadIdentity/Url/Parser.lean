import WorkloadIdentity.Url.Host

/-!
Reading URLs as browsers do. Controls and blanks at the two ends are dropped and so are tabs and
line breaks anywhere; behind a special scheme a backslash is a slash, and how many slashes stand
in front of the host does not matter. The authority ends at the first slash, question mark or
number sign, and the last `@` in it ends the user. Dot segments of the path are resolved while it
is read.

There is no base, so a text without a scheme is no URL.
-/

namespace WorkloadIdentity.Url

/-! ### Cutting the text -/

def isAsciiAlpha (c : Char) : Bool := ('a' ≤ c && c ≤ 'z') || ('A' ≤ c && c ≤ 'Z')

def isSchemeChar (c : Char) : Bool :=
  isAsciiAlpha c || ('0' ≤ c && c ≤ '9') || c == '+' || c == '-' || c == '.'

/-- Controls and the space. -/
def isEdge (c : Char) : Bool := c.toNat ≤ 0x20

def isTabOrBreak (c : Char) : Bool := c == '\t' || c == '\n' || c == '\r'

/-- The text without what is never part of a URL. -/
def clean (cs : List Char) : List Char :=
  let inner := ((cs.dropWhile isEdge).reverse.dropWhile isEdge).reverse
  inner.filter fun c => !isTabOrBreak c

/-- The scheme in lower case and the text behind its colon. -/
def cutScheme? (cs : List Char) : Option (List Char × List Char) :=
  let name := cs.takeWhile isSchemeChar
  match name.head?, cs.dropWhile isSchemeChar with
  | some first, ':' :: rest =>
    if isAsciiAlpha first then some (name.map Char.toLower, rest) else none
  | _, _ => none

/-- Slashes, and behind a special scheme backslashes. -/
def isSlash (special : Bool) (c : Char) : Bool := c == '/' || (special && c == '\\')

/-- Where an authority ends. -/
def endsAuthority (special : Bool) (c : Char) : Bool :=
  isSlash special c || c == '?' || c == '#'

/-! ### The authority -/

/-- The user and the secret before the last `@`. -/
def parseUser (cs : List Char) : List Char × Option (List Char) :=
  let encode := percentEncode isUserReserved
  let user := cs.takeWhile (· != ':')
  match cs.dropWhile (· != ':') with
  | _ :: secret => (encode user, if secret.isEmpty then none else some (encode secret))
  | [] => (encode user, none)

/-- The host and the text from its end on: from the first colon outside brackets. -/
def cutHost (inBrackets : Bool) : List Char → List Char × List Char
  | [] => ([], [])
  | c :: rest =>
    if c == ':' && !inBrackets then ([], c :: rest)
    else
      let inBrackets := if c == '[' then true else if c == ']' then false else inBrackets
      let (host, tail) := cutHost inBrackets rest
      (c :: host, tail)

/-- The port behind the host and the text behind the port, which a backslash begins if anything
does. -/
def parsePort (scheme cs : List Char) : Except UrlFault (Option Nat × List Char) :=
  match cs with
  | ':' :: rest =>
    let ds := rest.takeWhile fun c => '0' ≤ c && c ≤ '9'
    let tail := rest.dropWhile fun c => '0' ≤ c && c ≤ '9'
    let port := Decimal.valueOf ds
    if 65535 < port then .error .invalidPort
    else if !tail.isEmpty && tail.head? != some '\\' then .error .invalidPort
    else .ok (if ds.isEmpty || some port == defaultPort? scheme then none else some port, tail)
  | tail => .ok (none, tail)

/-- The authority in the given text, and what it leaves for the path; `atEnd` says that nothing
stands behind the text. -/
def parseAuthority (scheme : List Char) (atEnd : Bool) (cs : List Char) :
    Except UrlFault (Authority × List Char) := do
  let special := isSpecial scheme
  let user? := Text.cutLast? '@' cs
  let hostText := (user?.map (·.2)).getD cs
  if cs = ['@'] && !atEnd then throw .emptyHost
  let (username, secret) := (user?.map fun (user, _) => parseUser user).getD ([], none)
  let (hostChars, tail) := cutHost false hostText
  if special && hostChars.isEmpty then throw .emptyHost
  let host ← if special then parseHost hostChars else parsePlainHost hostChars
  if host = .name [] && !tail.isEmpty then throw .emptyHost
  let (port, tail) ← parsePort scheme tail
  if host = .name [] && (!username.isEmpty || secret.isSome) then throw .emptyHost
  return ({ username, secret, host, port }, tail)

/-! ### The path -/

/-- A segment that stands for the current place, in any spelling. -/
def isSingleDot (cs : List Char) : Bool :=
  let s := cs.map Char.toLower
  s == ".".toList || s == "%2e".toList

/-- A segment that stands for the place above, in any spelling. -/
def isDoubleDot (cs : List Char) : Bool :=
  let s := cs.map Char.toLower
  s == "..".toList || s == ".%2e".toList || s == "%2e.".toList || s == "%2e%2e".toList

/-- Adds the segments one after the other to those already `found`. A dot segment at the end
leaves an empty one. -/
def resolve (found : List (List Char)) : List (List Char) → List (List Char)
  | [] => found
  | [last] =>
    if isDoubleDot last then found.dropLast ++ [[]]
    else if isSingleDot last then found ++ [[]]
    else found ++ [percentEncode isPathReserved last]
  | part :: parts =>
    if isDoubleDot part then resolve found.dropLast parts
    else if isSingleDot part then resolve found parts
    else resolve (found ++ [percentEncode isPathReserved part]) parts

/-- The segments of a path text. Its first slash only begins it. -/
def parseSegments (special : Bool) (cs : List Char) : List (List Char) :=
  let inner :=
    match cs with
    | c :: rest => if isSlash special c then rest else cs
    | [] => []
  resolve [] (Text.splitBy (isSlash special) inner)

/-- The path behind an authority. Behind a special scheme there always is one. -/
def parsePath (special : Bool) (cs : List Char) : Path :=
  if cs.isEmpty && !special then .segments [] else .segments (parseSegments special cs)

/-! ### The whole -/

/-- The path text, the query and the fragment. -/
def cutQuery (cs : List Char) : List Char × Option (List Char) × Option (List Char) :=
  let beforeFragment := cs.takeWhile (· != '#')
  let path := beforeFragment.takeWhile (· != '?')
  let behind (rest : List Char) : Option (List Char) :=
    match rest with
    | _ :: text => some text
    | [] => none
  (path, behind (beforeFragment.dropWhile (· != '?')), behind (cs.dropWhile (· != '#')))

/-- A URL from its scheme, its authority and the text behind that. -/
def assemble (scheme : List Char) (authority : Option Authority) (path : List Char → Path)
    (cs : List Char) : Url :=
  let (text, query, fragment) := cutQuery cs
  let queryReserved := if isSpecial scheme then isSpecialQueryReserved else isQueryReserved
  { scheme, authority
    path := path text
    query := query.map (percentEncode queryReserved)
    fragment := fragment.map (percentEncode isFragmentReserved) }

/-- A URL with an authority, from the text behind the slashes. -/
def parseBehindSlashes (scheme cs : List Char) : Except UrlFault Url := do
  let special := isSpecial scheme
  let authorityText := cs.takeWhile fun c => !endsAuthority special c
  let rest := cs.dropWhile fun c => !endsAuthority special c
  let (authority, tail) ← parseAuthority scheme rest.isEmpty authorityText
  return assemble scheme (some authority) (parsePath special) (tail ++ rest)

/-- A letter and a colon or a bar: the name of a drive. -/
def isDrive (cs : List Char) : Bool :=
  match cs with
  | [letter, mark] => isAsciiAlpha letter && (mark == ':' || mark == '|')
  | _ => false

/-- A URL of a file. Behind two slashes there may be a host; the local one counts as none, and a
drive is part of the path. -/
def parseFile (scheme cs : List Char) : Except UrlFault Url :=
  let localFile (cs : List Char) : Url :=
    assemble scheme none (fun text => .segments (parseSegments true text)) cs
  match cs with
  | a :: b :: rest =>
    if isSlash true a && isSlash true b then
      let hostText := rest.takeWhile fun c => !endsAuthority true c
      let tail := rest.dropWhile fun c => !endsAuthority true c
      if isDrive hostText then .ok (localFile rest)
      else if hostText.isEmpty then .ok (localFile tail)
      else do
        let host ← parseHost hostText
        let host := if host = .name "localhost".toList then .name [] else host
        return assemble scheme (some { username := [], secret := none, host, port := none })
          (parsePath true) tail
    else .ok (localFile cs)
  | _ => .ok (localFile cs)

/-- Reads a URL. -/
def parse (raw : List Char) : Except UrlFault Url :=
  match cutScheme? (clean raw) with
  | none => .error .relativeWithoutBase
  | some (scheme, rest) =>
    if scheme == "file".toList then parseFile scheme rest
    else if isSpecial scheme then parseBehindSlashes scheme (rest.dropWhile (isSlash true))
    else
      match rest with
      | '/' :: '/' :: behind => parseBehindSlashes scheme behind
      | '/' :: _ => .ok (assemble scheme none (parsePath false) rest)
      | _ => .ok (assemble scheme none (fun text => .plain (percentEncode isControl text)) rest)

end WorkloadIdentity.Url
