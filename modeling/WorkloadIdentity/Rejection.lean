import WorkloadIdentity.Json.Reader
import WorkloadIdentity.Text.Blank

/-!
Answers of the broker that are no success. A body of the form `{"code": .., "error": {"message":
.., "code": ..}}` says why; of any other body the text is all there is to say. The reason decides
whether the client certificate has to be renewed, so a body counts as well formed only if every
member that is looked at is.
-/

namespace WorkloadIdentity

/-- A broker's refusal: its status, words for a person and a reason for a program. -/
structure Rejection where
  status : Nat
  message : String
  reason : Option String
deriving DecidableEq, Repr

namespace Rejection

/-- The reason of a broker that takes the client certificate for expired. -/
def certificateExpired : String := "cert_expired"

/-- The values under the given names, in the order of the names. An object has each name at most
once and may have others; an array gives the values in order and has no more of them than there
are names. -/
def fields? (names : List String) : Json → Option (List (Option Json))
  | .object members => do
    let members ← members.mapM fun (name, value) => do return ((← Json.readText? name), value)
    names.mapM fun name =>
      match members.filter (·.1 == name) with
      | [] => some none
      | [(_, value)] => some (some value)
      | _ => none
  | .array items =>
    if items.length ≤ names.length then
      some (items.map some ++ List.replicate (names.length - items.length) none)
    else none
  | _ => none

/-- A text that may be missing or null. -/
def optionalText? : Option Json → Option (Option String)
  | none | some .null => some none
  | some (.text raw) => (Json.readText? raw).map some
  | some _ => none

/-- The message and the code inside a body's error, which may be missing or null. -/
def detail? : Option Json → Option (Option String × Option String)
  | none | some .null => some (none, none)
  | some error => do
    match ← fields? ["message", "code"] error with
    | [message, code] => return (← optionalText? message, ← optionalText? code)
    | _ => none

/-- The message and the reason that a well-formed body gives. The code of the error goes before
the outer one. -/
def body? (bytes : Bytes) : Option (Option String × Option String) := do
  match ← fields? ["code", "error"] (← Json.parse bytes) with
  | [code, error] =>
    let code ← optionalText? code
    let (message, innerCode) ← detail? error
    return (message, innerCode <|> code)
  | _ => none

/-- What is said of a status when the body says nothing. -/
def fallback (status : Nat) : String :=
  "broker returned status " ++ String.ofList (Text.digits status)

/-- The refusal that a status and a body make up. -/
def ofResponse (status : Nat) (bytes : Bytes) : Rejection :=
  match body? bytes with
  | some (message, reason) => { status, message := message.getD (fallback status), reason }
  | none =>
    let text := Text.trimmed (Utf8.toStringLossy bytes)
    { status, message := if text = "" then fallback status else text, reason := none }

def isCertificateExpired (r : Rejection) : Bool := r.reason == some certificateExpired

def shown (r : Rejection) : String :=
  let head := "status " ++ String.ofList (Text.digits r.status) ++ ": " ++ r.message
  match r.reason with
  | some reason => head ++ " (" ++ reason ++ ")"
  | none => head

end Rejection

end WorkloadIdentity
