import WorkloadIdentity.Json.Written
import WorkloadIdentity.Service.Arguments
import WorkloadIdentity.Service.Log
import WorkloadIdentity.Settings.Layers
import WorkloadIdentity.World

/-!
The process as a whole: it reads its arguments and settings, makes the authenticator, keeps the
token fresh, and says what has gone wrong.
-/

namespace WorkloadIdentity

namespace Failure

/-- A failure with its causes behind colons. -/
def chain (f : Failure) : String := ": ".intercalate (f.message :: f.causes)

end Failure

/-- How the process ended, and what it logged on the way. -/
structure ServiceEnd where
  exitCode : Nat
  /-- The errors that were logged. -/
  errors : List String
  /-- The log is written in a form that programs can read. -/
  structured : Bool
  /-- What was printed instead of a run. -/
  printed : Option String
  world : World

/-- The log as it is written, a line for each error. -/
def ServiceEnd.logLines (done : ServiceEnd) : List String :=
  done.errors.map fun message =>
    if done.structured then
      "\x7b\"level\":\"ERROR\",\"message\":" ++ Json.writtenText message ++ "\x7d"
    else "ERROR " ++ message

namespace Service

/-- The parts of the program that log errors: the driver of the cycles, and what is around it. -/
def driverPart : String := "workload_authn::runner"
def outerPart : String := "workload_authn"

/-- An error from a part of the program, if the filter lets it through. -/
def logged (filter part message : String) : List String :=
  if LogFilter.logsErrors filter part then [message] else []

/-- Whether the log is written in a form that programs can read. -/
def logsStructured (a : Arguments) : Bool := a.logFormat == some "json"

def exitFailure : Nat := 1

/-- What the process ends with when it is stopped at once. -/
def exitAborted : Nat := 134

/-- The variable of the environment that may hold a filter for the log. -/
def filterVariable : String := "RUST_LOG"

/-- The filter of the log. -/
def filterOf (a : Arguments) (env : List (String × String)) : String :=
  LogFilter.choose (env.lookup filterVariable) a.logLevel

/-- The end of a process whose arguments have been read. -/
def ended (a : Arguments) (exitCode : Nat) (errors : List String) (world : World) : ServiceEnd where
  exitCode := exitCode
  errors := errors
  structured := logsStructured a
  printed := none
  world := world

/-- Ends with a failure in a phase of the process. -/
def failed (a : Arguments) (filter : String) (world : World) (phase : String)
    (failure : Failure) : ServiceEnd :=
  ended a exitFailure (logged filter outerPart (phase ++ ": " ++ failure.chain)) world

/-- Runs the process with arguments that have been read. There are at most `fuel` cycles and at
most as many attempts in each; the answer is nothing if it takes more. -/
def runWith (a : Arguments) (env : List (String × String)) (schedule : Schedule) (key : SessionKey)
    (fuel : Nat) (world : World) : Option ServiceEnd :=
  let filter := filterOf a env
  match Settings.load world.files env a.config with
  | .error failure => some (failed a filter world "Failed to load configuration" failure)
  | .ok settings =>
    let world := { world with store := TokenStore.forPath settings.tokenPath }
    match Authenticator.ofSettings settings world.files key with
    | .error failure => some (failed a filter world "Failed to create authenticator" failure)
    | .ok authenticator =>
      let refresh := (RefreshSettings.ofSettings settings).orOnce a.once
      let delete (w : World) : World := w.deleteToken.2
      let attempt := authenticator.attempt
      match Refresh.run refresh schedule attempt delete fuel fuel 0 world.clock world with
      | none => none
      | some done =>
        match done.outcome with
        | .ok () => some (ended a 0 [] done.world)
        | .failed failure =>
          let first := logged filter driverPart "Authentication failed"
          let last := failed a filter done.world "Authentication failed" failure
          some { last with errors := first ++ last.errors }
        | .overflow => some (ended a exitAborted [] done.world)

/-- Runs the process. -/
def run (args : List String) (env : List (String × String)) (schedule : Schedule) (key : SessionKey)
    (fuel : Nat) (world : World) : Option ServiceEnd :=
  match Arguments.read args env with
  | .error stop => some {
      exitCode := stop.exitCode
      errors := []
      structured := false
      printed := if stop = .version then some Arguments.versionLine else none
      world }
  | .ok a => runWith a env schedule key fuel world

end Service

end WorkloadIdentity
