import WorkloadIdentity.Exchange.Endpoint
import WorkloadIdentity.Exchange.Request
import WorkloadIdentity.Outcome
import WorkloadIdentity.TokenStore

/-!
What an authentication does to its surroundings. It reads the clock, waits, calls the file system,
sends requests, hands the access token over, and changes the session that is kept for the next
authentication. An `Exchange` is a program of such effects that ends in a value or a failure.
-/

namespace WorkloadIdentity

/-- What a login leaves: a certificate, and the client that shows it. -/
structure Session where
  certificate : ClientCertificate
  client : Client
deriving DecidableEq

inductive Effect where
  /-- Reads the wall clock. -/
  | now
  /-- Changes the session that is kept; without one the next authentication begins with a
  login. -/
  | keep (session : Option Session)
  | file (call : FileCall)
  | sleep (d : Duration)
  | send (client : Client) (request : Request)
  /-- Hands an access token over. -/
  | store (token : Bytes)
deriving DecidableEq

/-- What an effect is answered by. -/
def Effect.Answer : Effect → Type
  | now => WallTime
  | keep _ | sleep _ => Unit
  | file call => call.Answer
  | send .. => Except TransportFault Response
  | store _ => Except Failure Unit

/-- A program of effects that ends in an outcome. -/
def Exchange (α : Type) : Type := Program Effect Effect.Answer (Outcome α)

namespace Exchange

variable {α β : Type}

def ofOutcome (outcome : Outcome α) : Exchange α := Program.done outcome

/-- Goes on with the value; a failure ends the whole. -/
def andThen (p : Exchange α) (f : α → Exchange β) : Exchange β :=
  Program.andThen p fun
    | .ok a => f a
    | .failed failure => ofOutcome (.failed failure)
    | .overflow => ofOutcome .overflow

instance : Monad Exchange where
  pure a := ofOutcome (.ok a)
  bind := andThen

/-- One effect and its answer. -/
def call (effect : Effect) : Exchange effect.Answer :=
  Program.perform effect fun answer => Program.done (.ok answer)

def fail (failure : Failure) : Exchange α := ofOutcome (.failed failure)

def ofExcept (result : Except Failure α) : Exchange α := ofOutcome (.ofExcept result)

/-- Goes on with what has come of a program, be it a value or a failure. -/
def settled (p : Exchange α) : Exchange (Except Failure α) :=
  Program.andThen p fun
    | .ok a => ofOutcome (.ok (.ok a))
    | .failed failure => ofOutcome (.ok (.error failure))
    | .overflow => ofOutcome .overflow

/-! ### Single steps -/

def now : Exchange WallTime := call .now

def keep (session : Option Session) : Exchange Unit := call (.keep session)

def sleep (d : Duration) : Exchange Unit := call (.sleep d)

def readFile (path : Path) : Exchange (Except IoFault Bytes) := call (.file (.read path))

/-- Removes a file; that it cannot be removed is passed over. -/
def discardFile (path : Path) : Exchange Unit :=
  andThen (call (.file (.remove path))) fun _ => pure ()

def store (token : Bytes) : Exchange Unit := andThen (call (.store token)) ofExcept

/-- Sends a request and waits for the response. -/
def send (client : Client) (request : Request) : Exchange (Except TransportFault Response) :=
  call (.send client request)

/-- The response to a request that can be built. -/
def response (client : Client) (request : Except TransportFault Request) :
    Exchange (Except TransportFault Response) :=
  match request with
  | .ok request => send client request
  | .error fault => pure (.error fault)

/-- The access token that the broker answers with: the whole content of a success. -/
def token (answer : Except TransportFault Response) : Except Failure Bytes :=
  match answer with
  | .error fault => .error (.transport fault)
  | .ok response =>
    match response.content with
    | .error fault => .error (.transport fault)
    | .ok content =>
      if response.isSuccess then .ok content
      else .error (.rejected (Rejection.ofResponse response.status content))

/-- Asks the broker for an access token and hands it over. -/
def obtain (client : Client) (request : Except TransportFault Request) : Exchange Unit := do
  let answer ← response client request
  store (← ofExcept (token answer))

end Exchange

end WorkloadIdentity
