import WorkloadIdentity.Proofs.Refresh.Cycles
import WorkloadIdentity.Proofs.Retry.Script
import WorkloadIdentity.TokenStore

/-!
A signal to stop that has been given when an attempt fails. A cycle that may try again takes it for
the reason of the failure, and the run ends well and leaves the token in its place. A cycle of a
single attempt does not look for a signal: there the failure stands, and the token goes.
-/

namespace WorkloadIdentity.Refresh

variable {σ : Type} {s : RefreshSettings} {schedule : Schedule} {make : Attempt σ Unit}
  {delete : σ → σ} {cycle turn : Turn σ} {front : List (Trial σ Unit)} {later : Backoff}
  {finish : Finish σ Unit} {failure : Failure}

/-- What a cycle makes of a failure once the signal has been given. -/
def shown (s : RetrySettings) (failure : Failure) : Failure :=
  if s.enabled then .cancelled else failure

theorem sequel_after_signal {trial : Trial σ Unit} {started : Instant} {backoff : Backoff}
    (hfailed : trial.finish.outcome = .failed failure)
    (hstopped : schedule.stopped trial.finish.time = true) :
    Cycle.sequel s.retry schedule started backoff trial =
      .ends (.failed (shown s.retry failure)) trial.finish.time := by
  unfold shown
  cases henabled : s.retry.enabled with
  | false => rw [Cycle.sequel_disabled henabled, hfailed]; rfl
  | true => simp only [Cycle.sequel, henabled, if_true, hfailed, hstopped]

/-- The cycle of an attempt that fails when the signal has already been given ends with it. -/
theorem exists_cycle_after_signal
    (hfront : Cycle.Leads s.retry schedule make cycle.now (.ofSettings s.retry) cycle front later
      turn)
    (hattempt : Cycle.attemptAt s.retry schedule make turn = .finished finish)
    (hfailed : finish.outcome = .failed failure)
    (hstopped : schedule.stopped finish.time = true) :
    ∃ lap, Made s schedule make lap ∧ lap.turn = cycle ∧
      lap.done.outcome = .failed (shown s.retry failure) ∧ lap.done.time = finish.time ∧
      lap.done.world = finish.world := by
  have hlast : Cycle.Runs s.retry schedule make cycle.now later turn [⟨turn, finish⟩] _ :=
    .ended hattempt (sequel_after_signal hfailed hstopped)
  exact ⟨⟨cycle, _, _⟩, hfront.runs hlast, rfl, rfl, rfl, rfl⟩

/-- An attempt fails when the signal has already been given. The cycle says that it was cancelled
if it could have tried again, and otherwise repeats the failure. So the run ends well and leaves
everything as the attempt left it, unless retries are disabled and the attempt came to a failure of
its own; then the run fails with it and deletes the token. -/
theorem failure_after_signal (s : RefreshSettings) (schedule : Schedule) (make : Attempt σ Unit)
    (delete : σ → σ) (start : Turn σ) {cycles : List (Lap σ)} {cycle turn : Turn σ}
    {front : List (Trial σ Unit)} {later : Backoff} {finish : Finish σ Unit} {failure : Failure}
    (hcycles : Leads s schedule make start cycles cycle)
    (hfront : Cycle.Leads s.retry schedule make cycle.now (.ofSettings s.retry) cycle front later
      turn)
    (hattempt : Cycle.attemptAt s.retry schedule make turn = .finished finish)
    (hfailed : finish.outcome = .failed failure)
    (hstopped : schedule.stopped finish.time = true) :
    (∃ done, Cycle.Returns s.retry schedule make cycle done ∧ done.time = finish.time ∧
      done.outcome = .failed (shown s.retry failure)) ∧
    ∃ done, Returns s schedule make delete start done ∧ done.time = finish.time ∧
      (s.retry.enabled = true ∨ failure = .cancelled →
        done.outcome = .ok () ∧ done.world = finish.world) ∧
      (s.retry.enabled = false → failure ≠ .cancelled →
        done.outcome = .failed failure ∧ done.world = delete finish.world) := by
  obtain ⟨lap, hmade, rfl, houtcome, htime, hworld⟩ :=
    exists_cycle_after_signal hfront hattempt hfailed hstopped
  refine ⟨⟨lap.done, Cycle.returns_iff.mpr ⟨_, hmade⟩, htime, houtcome⟩, ?_⟩
  rw [← htime] at hstopped
  by_cases hcancelled : s.retry.enabled = true ∨ failure = .cancelled
  · have hshown : shown s.retry failure = .cancelled := by
      unfold shown
      rcases hcancelled with henabled | rfl
      · rw [if_pos henabled]
      · exact ite_self _
    rw [hshown] at houtcome
    have hlast : Runs s schedule make delete lap.turn [lap] _ :=
      .ended hmade (sequel_of_cancelled houtcome hstopped)
    refine ⟨_, returns_iff.mpr ⟨_, hcycles.runs hlast⟩, htime, fun _ => ⟨rfl, hworld⟩, ?_⟩
    intro hdisabled hown
    rcases hcancelled with henabled | hsame
    · simp [hdisabled] at henabled
    · exact (hown hsame).elim
  · have hshown : shown s.retry failure = failure := by
      unfold shown
      rw [if_neg fun henabled => hcancelled (Or.inl henabled)]
    rw [hshown] at houtcome
    have hown : failure ≠ .cancelled := fun hsame => hcancelled (Or.inr hsame)
    have hlast : Runs s schedule make delete lap.turn [lap] _ :=
      .ended hmade (sequel_of_failed houtcome fun hsame => hown hsame.1)
    refine ⟨_, returns_iff.mpr ⟨_, hcycles.runs hlast⟩, htime,
      fun hsame => (hcancelled hsame).elim, ?_⟩
    intro _ _
    exact ⟨rfl, congrArg delete hworld⟩

namespace Sample

/-- One attempt in a cycle, or as many as there is time for. -/
def settings (enabled : Bool) : RefreshSettings where
  interval := .ofSecs 10
  once := false
  retry := { RetrySettings.default with enabled }

/-- Attempts that fail after ten milliseconds. -/
def failing : Attempt MemoryStore Unit := fun start store =>
  (⟨some 10, .error (.loginFailed "flaky")⟩ : Scripted).course start store store.write

/-- The signal comes when the first attempt ends, and the end is seen first. -/
def together : Schedule :=
  { Schedule.undisturbed with stopAt := some 10, attemptFirst := fun _ => true }

def stored : Turn MemoryStore := ⟨0, 0, ⟨some [1]⟩⟩

end Sample

theorem failure_after_signal_enabled :
    ∃ finish, Cycle.attemptAt (Sample.settings true).retry Sample.together Sample.failing
        Sample.stored = .finished finish ∧
      finish.outcome = .failed (.loginFailed "flaky") ∧
      Sample.together.stopped finish.time = true ∧
      ∃ done, Returns (Sample.settings true) Sample.together Sample.failing (·.delete.2)
          Sample.stored done ∧ done.outcome = .ok () ∧ done.world.token = some [1] := by
  refine ⟨_, rfl, rfl, rfl, ?_⟩
  obtain ⟨_, done, hdone, _, hkept, _⟩ := failure_after_signal (Sample.settings true)
    Sample.together Sample.failing (·.delete.2) Sample.stored (.here _) (.here _ _) rfl rfl rfl
  obtain ⟨houtcome, hworld⟩ := hkept (Or.inl rfl)
  exact ⟨done, hdone, houtcome, congrArg MemoryStore.token hworld⟩

/-- With retries disabled a failure after the signal deletes the stored token. -/
theorem single_failure_after_signal_deletes :
    ∃ finish, Cycle.attemptAt (Sample.settings false).retry Sample.together Sample.failing
        Sample.stored = .finished finish ∧
      finish.outcome = .failed (.loginFailed "flaky") ∧
      Sample.together.stopped finish.time = true ∧
      ∃ done, Returns (Sample.settings false) Sample.together Sample.failing (·.delete.2)
          Sample.stored done ∧ done.outcome = .failed (.loginFailed "flaky") ∧
        done.world.token = none :=
  ⟨_, rfl, rfl, rfl, _, ⟨1, 1, rfl⟩, rfl, rfl⟩

end WorkloadIdentity.Refresh
