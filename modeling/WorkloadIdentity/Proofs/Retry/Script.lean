import WorkloadIdentity.Retry.Attempt

/-!
Attempts by a script. It says of every attempt how long it takes, if it ends at all, and whether it
comes to a token or to a failure.
-/

namespace WorkloadIdentity

/-- Attempts that do not end before they begin. -/
def Attempt.GoesForward {σ α : Type} (make : Attempt σ α) : Prop :=
  ∀ now world finish, (make now world).finish = some finish → now ≤ finish.time

/-- One attempt of a script. -/
structure Scripted where
  /-- Its length; without one it never ends. -/
  takes : Option Nat
  result : Except Failure Bytes

namespace Scripted

variable {σ α : Type}

/-- How the attempt ends; `accept` is what becomes of its token. -/
def finishAt (step : Scripted) (time : Instant) (world : σ)
    (accept : Bytes → Except Failure α × σ) : Finish σ α :=
  match step.result with
  | .ok token =>
    { time, outcome := .ofExcept (accept token).1, world := (accept token).2, dropped := false }
  | .error failure => { time, outcome := .failed failure, world, dropped := false }

/-- Nothing is left of an attempt that is dropped. -/
def course (step : Scripted) (start : Instant) (world : σ)
    (accept : Bytes → Except Failure α × σ) : Course σ α where
  finish := step.takes.map fun took => step.finishAt (start + took) world accept
  droppedAt _ := world

theorem finishAt_time (step : Scripted) (time : Instant) (world : σ)
    (accept : Bytes → Except Failure α × σ) :
    (step.finishAt time world accept).time = time := by
  unfold finishAt
  split <;> rfl

/-- Attempts whose world is their number, and which succeed with their token. -/
def numbered (script : Nat → Scripted) : Attempt Nat Bytes := fun start number =>
  (script number).course start (number + 1) fun token => (.ok token, number + 1)

theorem numbered_goesForward (script : Nat → Scripted) : (numbered script).GoesForward := by
  intro now number finish hfinish
  obtain ⟨took, _, rfl⟩ := Option.map_eq_some_iff.mp hfinish
  rw [finishAt_time]
  exact Nat.le_add_right now took

end Scripted

end WorkloadIdentity
