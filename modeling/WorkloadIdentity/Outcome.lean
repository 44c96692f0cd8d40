import WorkloadIdentity.Failure

/-!
How something that takes time comes to an end. Besides a value and a failure there is a third way:
times are added up while it runs, and where a sum of durations leaves their range the process
stops at once, with nothing cleaned up behind it.
-/

namespace WorkloadIdentity

inductive Outcome (α : Type) where
  | ok (value : α)
  | failed (failure : Failure)
  /-- A sum of durations left their range. -/
  | overflow
deriving DecidableEq, Repr

namespace Outcome

variable {α β : Type}

def ofExcept : Except Failure α → Outcome α
  | .ok a => ok a
  | .error failure => failed failure

/-- Goes on with the value, if there is one. -/
def andThen : Outcome α → (α → Outcome β) → Outcome β
  | ok a, f => f a
  | failed failure, _ => failed failure
  | overflow, _ => overflow

instance : Monad Outcome where
  pure := ok
  bind := andThen

end Outcome

end WorkloadIdentity
