import WorkloadIdentity.Pem.Base64
import WorkloadIdentity.Text.Quoted

/-!
Text that frames binary data: a line `-----BEGIN LABEL-----`, lines of base64, and a line that
begins with `-----END LABEL-----`. Lines outside such sections do not count, and neither do
sections under labels that are not known, whatever is in them. A line that begins a section inside
another one gives the section a new label and keeps the text that it has so far.
-/

namespace WorkloadIdentity

/-- What a section holds, as its label says. -/
inductive PemLabel where
  | certificate
  | publicKey
  /-- An RSA key by itself. -/
  | rsaKey
  /-- A key of any kind, which says of what kind it is. -/
  | privateKey
  /-- A key on an elliptic curve by itself. -/
  | ecKey
  | revocationList
  | signingRequest
  | helloConfigs
deriving DecidableEq, Repr

/-- Why a text cannot be read. -/
inductive PemFault where
  /-- The text ends inside a section under this label. -/
  | unterminated (label : Bytes)
  /-- A line begins a section, but not by five dashes behind the label. -/
  | illegalStart (line : Bytes)
  /-- What a section holds is no base64. -/
  | badText
deriving DecidableEq, Repr

def PemFault.message : PemFault → String
  | .unterminated label => "section end " ++ Text.quoted (Utf8.toStringLossy label) ++ " missing"
  | .illegalStart line => "illegal section start: " ++ Text.quoted (Utf8.toStringLossy line)
  | .badText => "a section holds no base64"

/-- A section that was read. -/
structure PemItem where
  label : PemLabel
  content : Bytes
deriving DecidableEq, Repr

namespace PemLabel

def all : List PemLabel := [certificate, publicKey, rsaKey, privateKey, ecKey, revocationList,
  signingRequest, helloConfigs]

def text : PemLabel → String
  | certificate => "CERTIFICATE"
  | publicKey => "PUBLIC KEY"
  | rsaKey => "RSA PRIVATE KEY"
  | privateKey => "PRIVATE KEY"
  | ecKey => "EC PRIVATE KEY"
  | revocationList => "X509 CRL"
  | signingRequest => "CERTIFICATE REQUEST"
  | helloConfigs => "ECHCONFIG"

def ofText? (label : Bytes) : Option PemLabel :=
  all.find? fun known => Utf8.ofString known.text == label

end PemLabel

namespace Pem

def dash : UInt8 := 0x2D
def dashes : Bytes := List.replicate 5 dash
def beginMark : Bytes := Utf8.ofString "-----BEGIN "
def endMark : Bytes := Utf8.ofString "-----END "

/-- A line ends behind a line feed or a carriage return, whichever comes. -/
def isLineEnd (b : UInt8) : Bool := b == 0x0A || b == 0x0D

/-- The lines of a text, each with what ends it. -/
def lines : Bytes → List Bytes
  | [] => []
  | b :: rest =>
    if isLineEnd b then [b] :: lines rest
    else
      match lines rest with
      | [] => [[b]]
      | line :: others => (b :: line) :: others

/-- What a text goes on with behind its beginning. -/
def after? (start text : Bytes) : Option Bytes :=
  if start.isPrefixOf text then some (text.drop start.length) else none

/-- The label behind the mark that begins a section. Five dashes are at its end; spaces and line
ends between and behind them do not count. -/
def openedLabel? (rest : Bytes) : Option Bytes :=
  let tail := rest.reverse.takeWhile fun b => b == dash || b == 0x20 || isLineEnd b
  if tail.count dash = 5 then
    some ((rest.reverse.drop tail.length).reverse ++ (tail.reverse.takeWhile (· != dash)))
  else none

/-- The line ends the section under the label. More may follow on the line. -/
def closes (label line : Bytes) : Bool := (endMark ++ label ++ dashes).isPrefixOf line

/-- The sections in the given lines, up to the first fault. A section that is open has a label,
and the lines that it has so far, with the latest one first. -/
def sections : (label : Option Bytes) → (text : List Bytes) → (lines : List Bytes) →
    List (Except PemFault PemItem)
  | none, _, [] => []
  | some label, _, [] => [.error (.unterminated label)]
  | label, text, line :: rest =>
    match after? beginMark line with
    | some behind =>
      match openedLabel? behind with
      | some label => sections (some label) text rest
      | none => [.error (.illegalStart line)]
    | none =>
      match label with
      | none => sections none text rest
      | some label =>
        if closes label line then
          match PemLabel.ofText? label with
          | none => sections none [] rest
          | some known =>
            match Base64.decode? text.reverse.flatten with
            | some content => .ok ⟨known, content⟩ :: sections none [] rest
            | none => [.error .badText]
        else sections (some label) (line :: text) rest

/-- The sections of a text in their order; a fault is the last of them. -/
def items (text : Bytes) : List (Except PemFault PemItem) := sections none [] (lines text)

end Pem

end WorkloadIdentity
