import WorkloadIdentity.Exchange.Effect

/-!
Waiting for the client certificate. The broker does not answer a signing request with the
certificate but writes it to a file next to the workload, so the file is looked at again and
again.
-/

namespace WorkloadIdentity.Delivery

/-- What a look at the file finds; that there is no file, or an empty one, is no find. -/
def found (look : Except IoFault Bytes) : Except Failure (Option Bytes) :=
  match look with
  | .ok content => .ok (if content.isEmpty then none else some content)
  | .error fault => if fault.isNotFound then .ok none else .error (.io fault)

/-- Looks once and then up to `more` times, always after a pause, when `waited` has passed
already. -/
def awaitFrom (path : Path) (interval : Duration) :
    (more : Nat) → (waited : Duration) → Exchange Bytes
  | more, waited => do
    let look ← Exchange.readFile path
    match ← Exchange.ofExcept (found look) with
    | some content => return content
    | none =>
      match more with
      | 0 => Exchange.fail (.certificateNotDelivered path waited)
      | more + 1 =>
        Exchange.sleep interval
        match waited.add? interval with
        | none => Exchange.ofOutcome .overflow
        | some waited => awaitFrom path interval more waited

/-- The content of the file once there is some, with at most `limit` pauses. -/
def await (path : Path) (limit : Nat) (interval : Duration) : Exchange Bytes :=
  awaitFrom path interval limit .zero

end WorkloadIdentity.Delivery
