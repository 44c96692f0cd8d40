import WorkloadIdentity.Duration

/-!
The clock that sleeps and timeouts are measured by. It counts whole milliseconds, so a sleep ends
at the first millisecond at or after the end of its duration.
-/

namespace WorkloadIdentity

/-- Milliseconds since the clock was started. -/
abbrev Instant := Nat

/-- A duration in milliseconds, rounded up. -/
def Duration.ticks (d : Duration) : Nat := (d.nanos + 999999) / 1000000

/-- When a sleep that begins at `start` ends. -/
def Instant.after (start : Instant) (d : Duration) : Instant := start + d.ticks

end WorkloadIdentity
