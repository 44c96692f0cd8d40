import WorkloadIdentity.Proofs.Exchange.Delivery
import WorkloadIdentity.Proofs.Retry.Overrun
import WorkloadIdentity.Proofs.Settings.Leaves

/-!
Sums of durations under settings that have been loaded. Two sums are made: of the elapsed time and
the pause that is to follow a failure, and of the pauses in which a certificate is waited for.
Settings take any duration that can be spelled, so both sums can leave the range of durations. What
can be spelled stays a second below the end of the range, though, so the first sum is in range while
less than a second has passed.
-/

namespace WorkloadIdentity

namespace RetrySettings

variable {dialect : Dialect} {value : Value} {s : RetrySettings}

theorem exact_of_read (h : read dialect value = .ok s) :
    s.initialBackoff.Exact ∧ s.maxBackoff.Exact := by
  have hslots := readable_of_read h
  simp only [slots, List.mem_cons, forall_eq_or_imp] at hslots
  obtain ⟨-, -, ⟨_, _, hinitial⟩, ⟨_, _, hmax⟩, -⟩ := hslots
  exact ⟨Reader.exact_of_duration hinitial, Reader.exact_of_duration hmax⟩

end RetrySettings

namespace Settings

variable {fs : FileSystem} {vars : List (String × String)} {path : Option Path} {s : Settings}

theorem read_of_load (h : load fs vars path = .ok s) : ∃ value, read .layered value = .ok s := by
  cases hfile : fileLayer fs path with
  | ok file => exact ⟨_, (load_ok_iff hfile).mp h⟩
  | error failure =>
      rw [load_eq, hfile] at h
      cases h

theorem backoff_le_of_load (h : load fs vars path = .ok s) :
    s.retry.initialBackoff.nanos ≤ (word64 - 1) * nanosPerSec ∧
      s.retry.maxBackoff.nanos ≤ (word64 - 1) * nanosPerSec := by
  obtain ⟨_, hread⟩ := read_of_load h
  obtain ⟨_, _, hretry⟩ := readable_of_read hread retrySlot (by simp [slots])
  obtain ⟨hinitial, hmax⟩ := RetrySettings.exact_of_read hretry
  exact ⟨hinitial.le, hmax.le⟩

/-- Under settings that have been loaded a cycle stops for a sum out of range if and only if the
elapsed time and the pause after one of its attempts add up to one, or the attempt itself stops for
that reason; and that takes a second at least. A wait for a certificate does if and only if the
pauses that it comes to add up to such a sum. -/
theorem sums_leave_range_iff (h : load fs vars path = .ok s) :
    (∀ (σ α : Type) (schedule : Schedule) (make : Attempt σ α) (start : Turn σ)
        (done : CycleEnd σ α), Cycle.Returns s.retry schedule make start done →
      ∃ trials,
        Cycle.Runs s.retry schedule make start.now (.ofSettings s.retry) start trials done ∧
        (done.outcome = .overflow ↔ ∃ k trial, trials[k]? = some trial ∧
          (trial.finish.outcome = .overflow ∨
            Cycle.Overruns s.retry schedule start.now k trial)) ∧
        ∀ k, ∀ trial ∈ trials, Cycle.Overruns s.retry schedule start.now k trial →
          nanosPerSec ≤
            (schedule.elapsed trial.turn.number (trial.finish.time - start.now)).nanos) ∧
    ∀ (σ : Type) (S : Surroundings σ) (w : σ),
      (Program.run S.answer (Delivery.await s.certificatePath s.certificateRetryLimit
          s.certificatePollInterval) w).1 = .overflow ↔
        ∃ count ≤ s.certificateRetryLimit,
          word64 * nanosPerSec ≤ count * s.certificatePollInterval.nanos ∧
          ∀ k < count, Delivery.FindsNothing
            (S.lookAt s.certificatePath s.certificatePollInterval w k) := by
  obtain ⟨hinitial, hmax⟩ := backoff_le_of_load h
  refine ⟨?_, fun _ _ _ => Delivery.await_overflow_iff⟩
  intro σ α schedule make start done hreturns
  obtain ⟨trials, hruns⟩ := Cycle.returns_iff.mp hreturns
  refine ⟨trials, hruns, ?_, ?_⟩
  · simpa using hruns.overflow_iff s.retry.backoffAfter_zero.symm
  · intro k trial _ hover
    have hsum := hover.le_elapsed hinitial hmax
    unfold word64 at hsum
    omega

/-- An initial delay of more than a second that grows to the longest one in one step, and an interval
of half the range of durations. -/
def patientVars : List (String × String) := [
  ("AUTHN_CLIENT_CERT_POLL_INTERVAL", "9223372036854775808s"),
  ("AUTHN_RETRY__INITIAL_BACKOFF", "1100ms"),
  ("AUTHN_RETRY__MAX_BACKOFF", "18446744073709551615s"),
  ("AUTHN_RETRY__MULTIPLIER", "1.0e38")]

def patient : Settings := { default with
  certificatePollInterval := .ofSecs 9223372036854775808
  retry := { RetrySettings.default with
    initialBackoff := ⟨1100000000, by decide⟩
    maxBackoff := .ofSecs (word64 - 1)
    multiplier := .finite false 9860761 103 } }

theorem load_patient : load .empty patientVars none = .ok patient := by decide +kernel

/-- Where there are no files, the second pause is one too many. -/
theorem sums_leave_range_iff_patient :
    load .empty patientVars none = .ok patient ∧
      (Program.run (Surroundings.ofFiles fun _ => FileSystem.empty).answer
        (Delivery.await patient.certificatePath patient.certificateRetryLimit
          patient.certificatePollInterval) (World.quiet 0 .empty (.forPath none))).1 =
        .overflow := by
  refine ⟨load_patient, ((sums_leave_range_iff load_patient).2 _ _ _).mpr ?_⟩
  refine ⟨2, by decide, by decide, ?_⟩
  intro k _
  refine Or.inr ⟨.system .noEntry, ?_, rfl⟩
  rw [Surroundings.lookAt_ofFiles fun _ => FileSystem.empty]
  decide +kernel

/-- Every attempt fails at once. -/
def failing (_ : Nat) : Scripted := ⟨some 0, .error .noData⟩

/-- The settings are accepted, and neither of the two sums under them stays in range: the second
failure stops the process, and so does the second pause in which a certificate is waited for. -/
theorem accepted_sums_leave_range :
    load .empty patientVars none = .ok patient ∧
    (∃ done, Cycle.Returns patient.retry .undisturbed (Scripted.numbered failing) ⟨0, 0, 0⟩ done ∧
      done.outcome = .overflow) ∧
    (Program.run (Surroundings.ofFiles World.files).answer
      (Delivery.await patient.certificatePath patient.certificateRetryLimit
        patient.certificatePollInterval) (World.quiet 0 .empty (.forPath none))).1 =
      .overflow := by
  have hrun : (Cycle.run patient.retry .undisturbed (Scripted.numbered failing) 2 0 0 0).map
      (·.outcome) = some .overflow := by decide +kernel
  obtain ⟨done, hdone, houtcome⟩ := Option.map_eq_some_iff.mp hrun
  exact ⟨load_patient, ⟨done, ⟨2, hdone⟩, houtcome⟩, by decide +kernel⟩

end Settings

end WorkloadIdentity
