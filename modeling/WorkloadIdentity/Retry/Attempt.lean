import WorkloadIdentity.Clock
import WorkloadIdentity.Outcome

/-!
Attempts on a clock. A `Course` says what an attempt would do if nobody interfered, and what is
left of it when it is dropped before its end. A limit on its time and a signal to stop each turn
one course into another; where an end and a signal fall on the same instant, either may be taken
first, and a `Schedule` says which.
-/

namespace WorkloadIdentity

/-- How an attempt ended. -/
structure Finish (σ α : Type) where
  time : Instant
  outcome : Outcome α
  world : σ
  /-- It was dropped before it came to its own end. -/
  dropped : Bool

/-- What an attempt does. -/
structure Course (σ α : Type) where
  /-- Its end; it may have none. -/
  finish : Option (Finish σ α)
  /-- The world that it leaves when it is dropped at an instant. -/
  droppedAt : Instant → σ

/-- An attempt, by the instant and the world in which it starts. -/
abbrev Attempt (σ α : Type) := Instant → σ → Course σ α

/-- What is decided outside: when the signal to stop is given, what is taken first where two
things happen at the same instant, and what the clock says that the elapsed time is measured by.
Attempts and the pauses after them are counted over the whole run. -/
structure Schedule where
  stopAt : Option Instant
  /-- The end of the attempt is seen before the signal. -/
  attemptFirst : Nat → Bool
  /-- The end of the pause is seen before the signal. -/
  pauseFirst : Nat → Bool
  /-- The time since the start of the cycle as it is read after an attempt, given how many
  milliseconds have passed on the clock of sleeps and timeouts. -/
  elapsed : (number : Nat) → (passed : Nat) → Duration

namespace Schedule

/-- No signal is given, and all times are read off one clock. -/
def undisturbed : Schedule where
  stopAt := none
  attemptFirst _ := false
  pauseFirst _ := false
  elapsed _ passed := (Duration.ofMillis? passed).getD .max

/-- The signal has been given. -/
def stopped (s : Schedule) (now : Instant) : Bool :=
  match s.stopAt with
  | some stop => stop ≤ now
  | none => false

/-- Waits from `now` until `wake`, or until the signal: in that case the instant at which it is
seen. -/
def interrupts? (s : Schedule) (now wake : Instant) (wakeFirst : Bool) : Option Instant :=
  match s.stopAt with
  | none => none
  | some stop =>
    let seen := max now stop
    if wake < seen || (wake == seen && wakeFirst) then none else some seen

end Schedule

namespace Course

variable {σ α : Type}

/-- What is left when the attempt is dropped: a failure that says so. -/
def drop (c : Course σ α) (time : Instant) : Finish σ α :=
  { time, outcome := .failed .cancelled, world := c.droppedAt time, dropped := true }

/-- The course with a limit on its time. An end at the limit is still in time. -/
def within (limit : Option Duration) (start : Instant) (c : Course σ α) : Course σ α :=
  match limit with
  | none => c
  | some limit =>
    let deadline := Instant.after start limit
    let inTime : Bool :=
      match c.finish with
      | some finish => finish.time ≤ deadline
      | none => false
    if inTime then c else { c with finish := some (c.drop deadline) }

/-- The course under a schedule, for attempt number `number`. -/
def under (schedule : Schedule) (number : Nat) (start : Instant) (c : Course σ α) :
    Option (Finish σ α) :=
  match c.finish with
  | some finish =>
    match schedule.interrupts? start finish.time (schedule.attemptFirst number) with
    | some seen => some (c.drop seen)
    | none => some finish
  | none => schedule.stopAt.map fun stop => c.drop (max start stop)

end Course

end WorkloadIdentity
