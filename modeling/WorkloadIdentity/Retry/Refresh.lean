import WorkloadIdentity.Retry.Cycle

/-!
Keeping the access token fresh: a cycle of attempts, a pause, and again, until a cycle fails for
good, the signal to stop is given, or one success is all that was asked for. A cycle that fails
takes the stored token with it.
-/

namespace WorkloadIdentity

/-- How the token is kept fresh. -/
structure RefreshSettings where
  /-- The pause after a success. -/
  interval : Duration
  /-- One success is enough. -/
  once : Bool
  retry : RetrySettings
deriving DecidableEq, Repr

namespace RefreshSettings

def ofSettings (s : Settings) : RefreshSettings where
  interval := s.refreshInterval
  once := s.mode.runsOnce
  retry := s.retry

/-- Asks for a single success if `once` holds; what asks for one already stays as it is. -/
def orOnce (s : RefreshSettings) (once : Bool) : RefreshSettings :=
  { s with once := s.once || once }

end RefreshSettings

/-- How a run ended, with the windows of its attempts cycle by cycle. -/
structure RefreshEnd (σ : Type) where
  time : Instant
  outcome : Outcome Unit
  world : σ
  cycles : List (List Window)

namespace Refresh

variable {σ : Type}

/-- Runs at most `fuel` cycles of at most `attempts` attempts, the first of which has the given
number; `delete` deletes the stored token, whether or not there is one. -/
def run (s : RefreshSettings) (schedule : Schedule) (make : Attempt σ Unit) (delete : σ → σ)
    (attempts : Nat) : (fuel number : Nat) → Instant → σ → Option (RefreshEnd σ)
  | 0, _, _, _ => none
  | fuel + 1, number, now, world =>
    match Cycle.run s.retry schedule make attempts number now world with
    | none => none
    | some done =>
      let ends (outcome : Outcome Unit) (time : Instant) (world : σ) : Option (RefreshEnd σ) :=
        some { time, outcome, world, cycles := [done.windows] }
      match done.outcome with
      | .overflow => ends .overflow done.time done.world
      | .failed failure =>
        if failure = .cancelled ∧ schedule.stopped done.time then ends (.ok ()) done.time done.world
        else ends (.failed failure) done.time (delete done.world)
      | .ok () =>
        if s.once then ends (.ok ()) done.time done.world
        else
          let wake := Instant.after done.time s.interval
          let next := number + done.windows.length
          match schedule.interrupts? done.time wake (schedule.pauseFirst (next - 1)) with
          | some seen => ends (.ok ()) seen done.world
          | none =>
            (run s schedule make delete attempts fuel next wake done.world).map fun rest =>
              { rest with cycles := done.windows :: rest.cycles }

end Refresh

end WorkloadIdentity
