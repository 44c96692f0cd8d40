import WorkloadIdentity.Retry.Attempt
import WorkloadIdentity.Retry.Backoff

/-!
A cycle of attempts, one after the other, until one of them succeeds or there is nothing left to
try. After a failure `RetrySettings.decide` says whether the cycle ends or pauses; `Cycle.run`
carries that out on the clock.
-/

namespace WorkloadIdentity

/-- The time from the start to the end of an attempt. -/
structure Window where
  start : Instant
  stop : Instant
  dropped : Bool
deriving DecidableEq, Repr

/-- What follows a failed attempt. -/
inductive Decision where
  | fail (failure : Failure)
  | overflow
  | pause (delay : Duration) (backoff : Backoff)
deriving DecidableEq, Repr

/-- Ends the cycle on a failure that is final, when there is no delay left, and when the delay
would lead past the limit of the elapsed time. -/
def RetrySettings.decide (s : RetrySettings) (elapsed : Duration) (backoff : Backoff)
    (failure : Failure) : Decision :=
  if failure.isRetryable then
    match backoff.next? with
    | none => .fail failure
    | some (delay, backoff) =>
      match s.maxElapsed with
      | none => .pause delay backoff
      | some limit =>
        match elapsed.add? delay with
        | none => .overflow
        | some total => if limit < total then .fail failure else .pause delay backoff
  else .fail failure

/-- How a cycle ended, with the windows of its attempts in their order. -/
structure CycleEnd (σ α : Type) where
  time : Instant
  outcome : Outcome α
  world : σ
  windows : List Window

namespace Cycle

variable {σ α : Type}

/-- What becomes of one attempt: the signal that was given before it may keep it from being made
at all. -/
inductive Made (σ α : Type) where
  | skipped
  | finished (finish : Finish σ α)
  | endless

/-- Makes attempt number `number`. -/
def attempt (s : RetrySettings) (schedule : Schedule) (attempt : Attempt σ α) (number : Nat)
    (now : Instant) (world : σ) : Made σ α :=
  if schedule.stopped now && !schedule.attemptFirst number then .skipped
  else
    match ((attempt now world).within s.attemptTimeout now).under schedule number now with
    | some finish => .finished finish
    | none => .endless

/-- The rest of a cycle that has `started` at an instant, from attempt number `number` on, with at
most `fuel` attempts; nothing if it has not ended by then, or an attempt never ends. -/
def runFrom (s : RetrySettings) (schedule : Schedule) (make : Attempt σ α) (started : Instant) :
    (fuel number : Nat) → Backoff → Instant → σ → Option (CycleEnd σ α)
  | 0, _, _, _, _ => none
  | fuel + 1, number, backoff, now, world =>
    match attempt s schedule make number now world with
    | .endless => none
    | .skipped => some { time := now, outcome := .failed .cancelled, world, windows := [] }
    | .finished finish =>
      let window : Window := ⟨now, finish.time, finish.dropped⟩
      let ends (outcome : Outcome α) (time : Instant) : Option (CycleEnd σ α) :=
        some { time, outcome, world := finish.world, windows := [window] }
      match finish.outcome with
      | .ok value => ends (.ok value) finish.time
      | .overflow => ends .overflow finish.time
      | .failed failure =>
        if schedule.stopped finish.time then ends (.failed .cancelled) finish.time
        else
          match s.decide (schedule.elapsed number (finish.time - started)) backoff failure with
          | .fail failure => ends (.failed failure) finish.time
          | .overflow => ends .overflow finish.time
          | .pause delay backoff =>
            let wake := Instant.after finish.time delay
            match schedule.interrupts? finish.time wake (schedule.pauseFirst number) with
            | some seen => ends (.failed .cancelled) seen
            | none =>
              let next := number + 1
              let rest := runFrom s schedule make started fuel next backoff wake finish.world
              rest.map fun rest => { rest with windows := window :: rest.windows }

/-- A single attempt, and its outcome whatever it is. -/
def once (s : RetrySettings) (schedule : Schedule) (make : Attempt σ α) (number : Nat)
    (now : Instant) (world : σ) : Option (CycleEnd σ α) :=
  match attempt s schedule make number now world with
  | .endless => none
  | .skipped => some { time := now, outcome := .failed .cancelled, world, windows := [] }
  | .finished finish => some {
      time := finish.time
      outcome := finish.outcome
      world := finish.world
      windows := [⟨now, finish.time, finish.dropped⟩] }

/-- A whole cycle, which starts with attempt number `number`. -/
def run (s : RetrySettings) (schedule : Schedule) (make : Attempt σ α) (fuel number : Nat)
    (now : Instant) (world : σ) : Option (CycleEnd σ α) :=
  if s.enabled then runFrom s schedule make now fuel number (.ofSettings s) now world
  else once s schedule make number now world

end Cycle

end WorkloadIdentity
