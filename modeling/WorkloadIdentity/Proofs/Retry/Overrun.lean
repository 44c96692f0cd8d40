import WorkloadIdentity.Proofs.Retry.Delays
import WorkloadIdentity.Proofs.Retry.Windows

/-!
Cycles that add up more time than a duration can hold. Where the elapsed time is limited, it is
added to the pause that is to follow before the two are compared with the limit, and this sum may
leave the range of durations. `Cycle.Overruns` says after which attempts it does, and
`Cycle.Runs.overflow_iff` that a cycle stops for that reason only, unless an attempt does.
-/

namespace WorkloadIdentity

namespace RetrySettings

variable {s : RetrySettings} {k : Nat} {elapsed : Duration} {failure : Failure}

/-- What bounds the initial delay and the longest one bounds all delays. -/
theorem delay_le {bound : Nat} (hinitial : s.initialBackoff.nanos ≤ bound)
    (hmax : s.maxBackoff.nanos ≤ bound) (k : Nat) : (s.delay k).nanos ≤ bound := by
  cases k with
  | zero => exact hinitial
  | succ k => exact Nat.le_trans (s.delay_succ_le k) hmax

theorem decide_eq_overflow_iff :
    s.decide elapsed (s.backoffAfter k) failure = .overflow ↔
      failure.isRetryable = true ∧ s.Allows (k + 1) ∧ s.maxElapsed ≠ none ∧
        word64 * nanosPerSec ≤ elapsed.nanos + (s.delay k).nanos := by
  rw [← Duration.add?_eq_none_iff]
  unfold decide
  cases failure.isRetryable with
  | false => simp
  | true =>
      by_cases hmore : s.Allows (k + 1)
      · cases hlimit : s.maxElapsed with
        | none => simp [next?_backoffAfter hmore]
        | some limit =>
            cases hsum : elapsed.add? (s.delay k) with
            | none => simp [next?_backoffAfter hmore, hmore, hsum]
            | some total =>
                by_cases hlate : limit < total <;>
                  simp [next?_backoffAfter hmore, hsum, hlate]
      · simp [next?_backoffAfter_of_not_allows hmore, hmore]

end RetrySettings

namespace Cycle

variable {σ α : Type} {s : RetrySettings} {schedule : Schedule} {make : Attempt σ α}
  {started : Instant} {turn start : Turn σ} {trial : Trial σ α} {trials : List (Trial σ α)}
  {done : CycleEnd σ α} {k : Nat}

/-- After attempt `k` the elapsed time and the pause are added up, and their sum is out of range. -/
structure Overruns (s : RetrySettings) (schedule : Schedule) (started : Instant) (k : Nat)
    (trial : Trial σ α) : Prop where
  enabled : s.enabled = true
  retryable : ∃ failure, trial.finish.outcome = .failed failure ∧ failure.isRetryable = true
  unstopped : schedule.stopped trial.finish.time = false
  allows : s.Allows (k + 1)
  limited : s.maxElapsed ≠ none
  outOfRange : word64 * nanosPerSec ≤
    (schedule.elapsed trial.turn.number (trial.finish.time - started)).nanos + (s.delay k).nanos

/-- The sum takes some time to get out of range if the delays leave some. -/
theorem Overruns.le_elapsed {bound : Nat} (h : Overruns s schedule started k trial)
    (hinitial : s.initialBackoff.nanos ≤ bound) (hmax : s.maxBackoff.nanos ≤ bound) :
    word64 * nanosPerSec ≤
      (schedule.elapsed trial.turn.number (trial.finish.time - started)).nanos + bound :=
  Nat.le_trans h.outOfRange (Nat.add_le_add_left (RetrySettings.delay_le hinitial hmax k) _)

theorem proceed_eq_overflow_iff {failure : Failure} :
    (∃ time, proceed s schedule started (s.backoffAfter k) trial failure = .ends .overflow time) ↔
      s.decide (schedule.elapsed trial.turn.number (trial.finish.time - started))
        (s.backoffAfter k) failure = .overflow := by
  unfold proceed
  dsimp only
  cases s.decide (schedule.elapsed trial.turn.number (trial.finish.time - started))
      (s.backoffAfter k) failure with
  | fail _ => simp
  | overflow => simp
  | pause delay later =>
      dsimp only [pause]
      split <;> simp

/-- What one attempt leads to. -/
theorem sequel_eq_overflow_iff (trial : Trial σ α) :
    (∃ time, sequel s schedule started (s.backoffAfter k) trial = .ends .overflow time) ↔
      trial.finish.outcome = .overflow ∨ Overruns s schedule started k trial := by
  cases henabled : s.enabled with
  | false =>
      have hover : ¬Overruns s schedule started k trial := fun hover =>
        Bool.false_ne_true (henabled.symm.trans hover.enabled)
      simp [sequel_disabled henabled, hover]
  | true =>
      cases houtcome : trial.finish.outcome with
      | ok value =>
          have hover : ¬Overruns s schedule started k trial := by
            rintro ⟨-, ⟨failure, hfailed, -⟩, -⟩
            cases houtcome.symm.trans hfailed
          simp [sequel, henabled, houtcome, hover]
      | overflow => simp [sequel, henabled, houtcome]
      | failed failure =>
          cases hstopped : schedule.stopped trial.finish.time with
          | true =>
              have hover : ¬Overruns s schedule started k trial := fun hover =>
                Bool.false_ne_true (hover.unstopped.symm.trans hstopped)
              simp [sequel, henabled, houtcome, hstopped, hover]
          | false =>
              rw [sequel_failed henabled houtcome hstopped, proceed_eq_overflow_iff,
                RetrySettings.decide_eq_overflow_iff]
              constructor
              · rintro ⟨hretry, hmore, hlimited, hsum⟩
                exact Or.inr
                  ⟨henabled, ⟨failure, houtcome, hretry⟩, hstopped, hmore, hlimited, hsum⟩
              · rintro (hother | ⟨-, ⟨other, hother, hretry⟩, -, hmore, hlimited, hsum⟩)
                · cases hother
                · cases houtcome.symm.trans hother
                  exact ⟨hretry, hmore, hlimited, hsum⟩

/-- A cycle stops for a sum out of range if and only if one of its attempts does, or the sum after
it is such a one. -/
theorem Runs.overflow_iff {backoff : Backoff}
    (h : Runs s schedule make started backoff turn trials done)
    (hbackoff : backoff = s.backoffAfter k) :
    done.outcome = .overflow ↔ ∃ i trial, trials[i]? = some trial ∧
      (trial.finish.outcome = .overflow ∨ Overruns s schedule started (k + i) trial) := by
  -- On the rounds; an attempt that is followed by a pause has had a sum in range.
  induction h generalizing k with
  | skipped _ => simp [CycleEnd.ofSkipped]
  | @ended backoff turn finish outcome time _ hsequel =>
      subst hbackoff
      have hlast : outcome = .overflow ↔ finish.outcome = .overflow ∨
          Overruns s schedule started k ⟨turn, finish⟩ := by
        refine Iff.trans ?_ (sequel_eq_overflow_iff ⟨turn, finish⟩)
        simp [hsequel]
      constructor
      · intro hover
        exact ⟨0, _, rfl, hlast.mp hover⟩
      · rintro ⟨i, trial, htrial, hover⟩
        obtain ⟨rfl, rfl⟩ : i = 0 ∧ ⟨turn, finish⟩ = trial := by
          cases i with
          | zero => exact ⟨rfl, Option.some.inj htrial⟩
          | succ i => cases htrial
        exact hlast.mpr hover
  | @paused backoff next turn finish wake trials done _ hsequel _ ih =>
      subst hbackoff
      have hfirst : ¬(finish.outcome = .overflow ∨
          Overruns s schedule started k ⟨turn, finish⟩) := by
        intro hover
        obtain ⟨_, hends⟩ := (sequel_eq_overflow_iff ⟨turn, finish⟩).mpr hover
        cases hsequel.symm.trans hends
      obtain ⟨_, hnext, _⟩ := sequel_pauses_next hsequel
      obtain ⟨-, hlater, -⟩ := next?_backoffAfter_some hnext
      refine (ih hlater).trans ?_
      constructor
      · rintro ⟨i, trial, htrial, hover⟩
        refine ⟨i + 1, trial, htrial, ?_⟩
        rwa [← Nat.add_assoc, Nat.add_right_comm]
      · rintro ⟨i, trial, htrial, hover⟩
        cases i with
        | zero =>
            cases htrial
            exact absurd hover hfirst
        | succ i =>
            refine ⟨i, trial, htrial, ?_⟩
            rwa [← Nat.add_assoc, Nat.add_right_comm] at hover

end Cycle

end WorkloadIdentity
