import Mathlib.Data.Nat.Find
import WorkloadIdentity.Proofs.Duration
import WorkloadIdentity.Proofs.Retry.Rounds
import WorkloadIdentity.Proofs.Retry.Script

/-!
Cycles in which no signal is given. Attempts and the pauses after them make a sequence that goes
on for as long as the attempts come to an end; `Cycle.trial?` is that sequence and knows nothing of
when to give up. `Cycle.Stops` collects the grounds for giving up after an attempt. The main
statement, `Cycle.returns_at_first_stop`, is that a cycle makes the attempts of the sequence up to
the first one with such a ground, and returns what that one came to.
-/

namespace WorkloadIdentity

def Schedule.unstopped (schedule : Schedule) : Schedule := { schedule with stopAt := none }

namespace RetrySettings

variable {s : RetrySettings} {k : Nat}

/-- The pause after an attempt, if there is another one; the first attempt has the number 0. -/
def delay (s : RetrySettings) : Nat → Duration
  | 0 => s.initialBackoff
  | k + 1 => Backoff.grow s.maxBackoff s.multiplier (s.delay k)

/-- The delays after the first `k` of them. -/
def backoffAfter (s : RetrySettings) (k : Nat) : Backoff where
  initial := s.initialBackoff
  cap := s.maxBackoff
  factor := s.multiplier
  left := if s.maxAttempts = 0 then none else some (s.maxAttempts - 1 - k)
  last := match k with
    | 0 => none
    | k + 1 => some (s.delay k)

theorem backoffAfter_zero (s : RetrySettings) : s.backoffAfter 0 = .ofSettings s := rfl

/-- After attempt `k` there may be another one. -/
def Allows (s : RetrySettings) (k : Nat) : Prop := s.maxAttempts = 0 ∨ k < s.maxAttempts

theorem next?_backoffAfter (h : s.Allows (k + 1)) :
    (s.backoffAfter k).next? = some (s.delay k, s.backoffAfter (k + 1)) := by
  have hleft : (s.backoffAfter k).left ≠ some 0 := by
    unfold backoffAfter
    rcases h with h | h
    · simp [h]
    · have hpositive : s.maxAttempts ≠ 0 := by omega
      simp only [hpositive, if_false, ne_eq, Option.some.injEq]
      omega
  have hmapped : (s.backoffAfter k).left.map (· - 1) = (s.backoffAfter (k + 1)).left := by
    unfold backoffAfter
    split
    · rfl
    · simp only [Option.map_some, Option.some.injEq]
      omega
  unfold Backoff.next?
  rw [if_neg hleft, hmapped]
  cases k <;> rfl

theorem next?_backoffAfter_last (hpositive : 0 < s.maxAttempts) (hlast : s.maxAttempts ≤ k + 1) :
    (s.backoffAfter k).next? = none := by
  have hleft : (s.backoffAfter k).left = some 0 := by
    unfold backoffAfter
    rw [if_neg (by omega), Option.some.injEq]
    omega
  unfold Backoff.next?
  rw [if_pos hleft]

end RetrySettings

namespace Cycle

variable {σ α : Type} {s : RetrySettings} {schedule : Schedule} {make : Attempt σ α}
  {started : Instant} {turn start : Turn σ} {trial last : Trial σ α} {done : CycleEnd σ α}
  {k : Nat}

/-! ### The sequence of attempts -/

/-- How the attempt at a turn ends if nobody interferes: by itself, or by the limit on its
time. -/
def finish? (s : RetrySettings) (make : Attempt σ α) (turn : Turn σ) : Option (Finish σ α) :=
  ((make turn.now turn.world).within s.attemptTimeout turn.now).finish

/-- The turn of attempt `k`, if all attempts before it end and each is followed by a pause. -/
def turn? (s : RetrySettings) (make : Attempt σ α) (start : Turn σ) : Nat → Option (Turn σ)
  | 0 => some start
  | k + 1 => do
    let turn ← turn? s make start k
    let finish ← finish? s make turn
    return Trial.next ⟨turn, finish⟩ (finish.time.after (s.delay k))

/-- Attempt `k`, if it ends. -/
def trial? (s : RetrySettings) (make : Attempt σ α) (start : Turn σ) (k : Nat) :
    Option (Trial σ α) := do
  let turn ← turn? s make start k
  let finish ← finish? s make turn
  return ⟨turn, finish⟩

theorem trial?_eq_some_iff : trial? s make start k = some trial ↔
    turn? s make start k = some trial.turn ∧ finish? s make trial.turn = some trial.finish := by
  cases trial
  simp [trial?, Option.bind_eq_some_iff]

theorem turn?_succ (s : RetrySettings) (make : Attempt σ α) (start : Turn σ) (k : Nat) :
    turn? s make start (k + 1) =
      (trial? s make start k).map fun trial =>
        trial.next (trial.finish.time.after (s.delay k)) := by
  rw [turn?, trial?]
  cases turn? s make start k with
  | none => rfl
  | some turn => cases hfinish : finish? s make turn <;> simp [hfinish]

theorem attemptAt_unstopped (s : RetrySettings) (schedule : Schedule) (make : Attempt σ α)
    (turn : Turn σ) :
    attemptAt s schedule.unstopped make turn =
      match finish? s make turn with
      | some finish => .finished finish
      | none => .endless := by
  simp only [attemptAt, attempt, finish?, Schedule.stopped, Schedule.unstopped, Course.under,
    Schedule.interrupts?]
  cases ((make turn.now turn.world).within s.attemptTimeout turn.now).finish <;> rfl

/-! ### Grounds for giving up -/

/-- The cycle has a ground to end with attempt `k`. -/
inductive Stops (s : RetrySettings) (schedule : Schedule) (started : Instant) (k : Nat)
    (trial : Trial σ α) : Prop
  | single : s.enabled = false → Stops s schedule started k trial
  /-- It did not fail. -/
  | settled : (∀ failure, trial.finish.outcome ≠ .failed failure) →
      Stops s schedule started k trial
  | final {failure : Failure} : trial.finish.outcome = .failed failure →
      failure.isRetryable = false → Stops s schedule started k trial
  | exhausted : 0 < s.maxAttempts → k + 1 = s.maxAttempts → Stops s schedule started k trial
  /-- The pause would lead past the limit of the elapsed time. -/
  | late {limit : Duration} : s.maxElapsed = some limit →
      limit.nanos < (schedule.elapsed trial.turn.number (trial.finish.time - started)).nanos +
        (s.delay k).nanos →
      Stops s schedule started k trial

/-- The elapsed time and the pause after attempt `k` have a sum, if it is asked for. -/
def Adds (s : RetrySettings) (schedule : Schedule) (started : Instant) (k : Nat)
    (trial : Trial σ α) : Prop :=
  s.maxElapsed ≠ none →
    (schedule.elapsed trial.turn.number (trial.finish.time - started)).add? (s.delay k) ≠ none

theorem sequel_unstopped_failed {failure : Failure} (henabled : s.enabled = true)
    (houtcome : trial.finish.outcome = .failed failure) (backoff : Backoff) :
    sequel s schedule.unstopped started backoff trial =
      match s.decide (schedule.elapsed trial.turn.number (trial.finish.time - started)) backoff
          failure with
      | .fail failure => .ends (.failed failure) trial.finish.time
      | .overflow => .ends .overflow trial.finish.time
      | .pause delay backoff => .pauses backoff (trial.finish.time.after delay) := by
  rw [sequel_failed henabled houtcome rfl]
  rfl

theorem allows_succ (h : s.Allows k) (hgoes : ¬Stops s schedule started k trial) :
    s.Allows (k + 1) := by
  rcases h with hendless | hless
  · exact Or.inl hendless
  · have hlast : k + 1 ≠ s.maxAttempts := fun hlast => hgoes (.exhausted (by omega) hlast)
    exact Or.inr (by omega)

/-- A ground to end after a failure that may be repeated, with attempts left, is that it is late. -/
theorem Stops.late_of_allows {failure : Failure} (h : Stops s schedule started k trial)
    (henabled : s.enabled = true) (houtcome : trial.finish.outcome = .failed failure)
    (hretry : failure.isRetryable = true) (hmore : s.Allows (k + 1)) :
    ∃ limit, s.maxElapsed = some limit ∧ limit.nanos <
      (schedule.elapsed trial.turn.number (trial.finish.time - started)).nanos +
        (s.delay k).nanos := by
  cases h with
  | single hsingle => simp [henabled] at hsingle
  | settled hsettled => exact (hsettled failure houtcome).elim
  | final hfailed hfinal =>
      cases houtcome.symm.trans hfailed
      simp [hretry] at hfinal
  | exhausted hpositive hlast =>
      unfold RetrySettings.Allows at hmore
      omega
  | late hlimit hlate => exact ⟨_, hlimit, hlate⟩

theorem decide_of_stops {failure : Failure} (henabled : s.enabled = true)
    (houtcome : trial.finish.outcome = .failed failure) (h : Stops s schedule started k trial)
    (hadds : Adds s schedule started k trial) :
    s.decide (schedule.elapsed trial.turn.number (trial.finish.time - started))
      (s.backoffAfter k) failure = .fail failure := by
  unfold RetrySettings.decide
  cases hretry : failure.isRetryable with
  | false => rfl
  | true =>
      by_cases hmore : s.Allows (k + 1)
      · obtain ⟨limit, hlimit, hlate⟩ := h.late_of_allows henabled houtcome hretry hmore
        obtain ⟨total, htotal⟩ := Option.ne_none_iff_exists'.mp (hadds (by simp [hlimit]))
        have hpast : limit < total := by
          show limit.nanos < total.nanos
          rw [Duration.add?_eq_some_iff.mp htotal]
          exact hlate
        simp [RetrySettings.next?_backoffAfter hmore, hlimit, htotal, hpast]
      · have hnone := RetrySettings.next?_backoffAfter_last (s := s) (k := k)
          (by unfold RetrySettings.Allows at hmore; omega)
          (by unfold RetrySettings.Allows at hmore; omega)
        simp [hnone]

theorem decide_of_not_stops {failure : Failure}
    (houtcome : trial.finish.outcome = .failed failure) (hallows : s.Allows k)
    (h : ¬Stops s schedule started k trial) :
    s.decide (schedule.elapsed trial.turn.number (trial.finish.time - started))
      (s.backoffAfter k) failure = .pause (s.delay k) (s.backoffAfter (k + 1)) := by
  have hretry : failure.isRetryable = true := by
    cases hfinal : failure.isRetryable with
    | true => rfl
    | false => exact (h (.final houtcome hfinal)).elim
  have hmore := allows_succ hallows h
  simp only [RetrySettings.decide, hretry, if_true, RetrySettings.next?_backoffAfter hmore]
  cases hlimit : s.maxElapsed with
  | none => rfl
  | some limit =>
      have hintime : ¬limit.nanos < (schedule.elapsed trial.turn.number
          (trial.finish.time - started)).nanos + (s.delay k).nanos :=
        fun hlate => h (.late hlimit hlate)
      have hrange := limit.nanos_lt
      obtain ⟨total, htotal⟩ : ∃ total : Duration, total.nanos = (schedule.elapsed
          trial.turn.number (trial.finish.time - started)).nanos + (s.delay k).nanos :=
        ⟨⟨_, by omega⟩, rfl⟩
      have hwithin : ¬limit < total := by
        show ¬limit.nanos < total.nanos
        omega
      simp [Duration.add?_eq_some_iff.mpr htotal, hwithin]

/-- A cycle with a ground to end returns what its last attempt came to. -/
theorem sequel_of_stops (h : Stops s schedule started k trial)
    (hadds : Adds s schedule started k trial) :
    sequel s schedule.unstopped started (s.backoffAfter k) trial =
      .ends trial.finish.outcome trial.finish.time := by
  cases henabled : s.enabled with
  | false => exact sequel_disabled henabled
  | true =>
      cases houtcome : trial.finish.outcome with
      | ok value => simp only [sequel, henabled, if_true, houtcome]
      | overflow => simp only [sequel, henabled, if_true, houtcome]
      | failed failure =>
          rw [sequel_unstopped_failed henabled houtcome,
            decide_of_stops henabled houtcome h hadds]

theorem sequel_of_not_stops (hallows : s.Allows k) (h : ¬Stops s schedule started k trial) :
    sequel s schedule.unstopped started (s.backoffAfter k) trial =
      .pauses (s.backoffAfter (k + 1)) (trial.finish.time.after (s.delay k)) := by
  have henabled : s.enabled = true := by
    cases hsingle : s.enabled with
    | true => rfl
    | false => exact (h (.single hsingle)).elim
  cases houtcome : trial.finish.outcome with
  | ok value => exact (h (.settled (by simp [houtcome]))).elim
  | overflow => exact (h (.settled (by simp [houtcome]))).elim
  | failed failure =>
      rw [sequel_unstopped_failed henabled houtcome, decide_of_not_stops houtcome hallows h]

/-! ### The first ground -/

/-- Attempt `k` is the first one that gives a ground to end. -/
structure FirstStop (s : RetrySettings) (schedule : Schedule) (make : Attempt σ α)
    (start : Turn σ) (k : Nat) (last : Trial σ α) : Prop where
  trial : trial? s make start k = some last
  stops : Stops s schedule start.now k last
  before : ∀ j < k, ∀ earlier, trial? s make start j = some earlier →
    ¬Stops s schedule start.now j earlier

theorem turn?_of_trial? (h : trial? s make start k = some trial) :
    turn? s make start (k + 1) = some (trial.next (trial.finish.time.after (s.delay k))) := by
  rw [turn?_succ, h]
  rfl

theorem exists_trial_of_le {m : Nat} (h : trial? s make start m = some last) (hle : k ≤ m) :
    ∃ trial, trial? s make start k = some trial := by
  induction m generalizing last with
  | zero =>
      obtain rfl : k = 0 := by omega
      exact ⟨last, h⟩
  | succ m ih =>
      by_cases hk : k = m + 1
      · subst hk
        exact ⟨last, h⟩
      · have hturn := (trial?_eq_some_iff.mp h).1
        rw [turn?_succ, Option.map_eq_some_iff] at hturn
        obtain ⟨trial, htrial, _⟩ := hturn
        exact ih htrial (by omega)

theorem attemptAt_of_trial? (h : trial? s make start k = some trial) :
    attemptAt s schedule.unstopped make trial.turn = .finished trial.finish := by
  rw [attemptAt_unstopped, (trial?_eq_some_iff.mp h).2]

theorem trial?_of_attemptAt {finish : Finish σ α} (hturn : turn? s make start k = some turn)
    (h : attemptAt s schedule.unstopped make turn = .finished finish) :
    trial? s make start k = some ⟨turn, finish⟩ := by
  rw [attemptAt_unstopped] at h
  cases hfinish : finish? s make turn with
  | none => simp [hfinish] at h
  | some own =>
      simp only [hfinish, Made.finished.injEq] at h
      exact trial?_eq_some_iff.mpr ⟨hturn, by rw [hfinish, h]⟩

/-- A cycle without a signal goes along the sequence until there is a ground to end. -/
theorem Runs.first_stop {backoff : Backoff} {trials : List (Trial σ α)}
    (h : Runs s schedule.unstopped make start.now backoff turn trials done)
    (hbackoff : backoff = s.backoffAfter k) (hturn : turn? s make start k = some turn)
    (hallows : s.Allows k)
    (hbefore : ∀ j < k, ∀ earlier, trial? s make start j = some earlier →
      ¬Stops s schedule start.now j earlier)
    (hadds : ∀ m last, FirstStop s schedule make start m last →
      Adds s schedule start.now m last) :
    ∃ m last, k ≤ m ∧ FirstStop s schedule make start m last ∧
      trials = (List.range' k (m + 1 - k)).filterMap (trial? s make start) ∧
      done.time = last.finish.time ∧ done.outcome = last.finish.outcome ∧
      done.world = last.finish.world := by
  -- On the rounds; what is left of the delays says how many attempts there have been.
  induction h generalizing k with
  | skipped hattempt =>
      rw [attemptAt_unstopped] at hattempt
      split at hattempt <;> cases hattempt
  | @ended backoff turn finish outcome time hattempt hsequel =>
      subst hbackoff
      have htrial := trial?_of_attemptAt hturn hattempt
      by_cases hstops : Stops s schedule start.now k ⟨turn, finish⟩
      · have hfirst : FirstStop s schedule make start k ⟨turn, finish⟩ :=
          ⟨htrial, hstops, hbefore⟩
        rw [sequel_of_stops hstops (hadds k _ hfirst)] at hsequel
        cases hsequel
        exact ⟨k, _, Nat.le_refl k, hfirst, by simp [htrial], rfl, rfl, rfl⟩
      · rw [sequel_of_not_stops hallows hstops] at hsequel
        cases hsequel
  | @paused backoff next turn finish wake trials done hattempt hsequel _ ih =>
      subst hbackoff
      have htrial := trial?_of_attemptAt hturn hattempt
      by_cases hstops : Stops s schedule start.now k ⟨turn, finish⟩
      · rw [sequel_of_stops hstops (hadds k _ ⟨htrial, hstops, hbefore⟩)] at hsequel
        cases hsequel
      · rw [sequel_of_not_stops hallows hstops] at hsequel
        cases hsequel
        obtain ⟨m, last, hle, hfirst, hlist, hdone⟩ :=
          ih rfl (turn?_of_trial? htrial) (allows_succ hallows hstops) (by
            intro j hj earlier hearlier
            by_cases hlast : j = k
            · subst hlast
              cases htrial.symm.trans hearlier
              exact hstops
            · exact hbefore j (by omega) earlier hearlier)
        refine ⟨m, last, by omega, hfirst, ?_, hdone⟩
        have hcount : m + 1 - k = m + 1 - (k + 1) + 1 := by omega
        rw [hcount, List.range'_succ, List.filterMap_cons, htrial, hlist]

/-- The attempts up to the first ground to end make a whole cycle. -/
theorem FirstStop.runs {n : Nat} (h : FirstStop s schedule make start (k + n) last)
    (hturn : turn? s make start k = some turn) (hallows : s.Allows k)
    (hadds : Adds s schedule start.now (k + n) last) :
    ∃ done, Runs s schedule.unstopped make start.now (s.backoffAfter k) turn
        ((List.range' k (n + 1)).filterMap (trial? s make start)) done ∧
      done.time = last.finish.time ∧ done.outcome = last.finish.outcome ∧
      done.world = last.finish.world := by
  induction n generalizing k turn with
  | zero =>
      obtain ⟨hlast, hfinish⟩ := trial?_eq_some_iff.mp h.trial
      cases hturn.symm.trans hlast
      refine ⟨.ofTrial last last.finish.outcome last.finish.time, ?_, rfl, rfl, rfl⟩
      simp only [Nat.zero_add, List.range'_one, List.filterMap_cons, List.filterMap_nil]
      rw [show trial? s make start k = some last from h.trial]
      exact .ended (attemptAt_of_trial? h.trial) (sequel_of_stops h.stops hadds)
  | succ n ih =>
      obtain ⟨trial, htrial⟩ := exists_trial_of_le h.trial (Nat.le_add_right k (n + 1))
      cases hturn.symm.trans (trial?_eq_some_iff.mp htrial).1
      have hgoes : ¬Stops s schedule start.now k trial := h.before k (by omega) trial htrial
      have hplace : k + 1 + n = k + (n + 1) := by omega
      obtain ⟨done, hruns, hdone⟩ := ih (k := k + 1) (hplace ▸ h) (turn?_of_trial? htrial)
        (allows_succ hallows hgoes) (hplace ▸ hadds)
      refine ⟨.after trial done, ?_, hdone⟩
      rw [List.range'_succ, List.filterMap_cons, htrial]
      exact .paused (attemptAt_of_trial? htrial) (sequel_of_not_stops hallows hgoes) hruns

/-- How many attempts a cycle makes. -/
theorem FirstStop.lt_maxAttempts (h : FirstStop s schedule make start k last)
    (hpositive : 0 < s.maxAttempts) : k < s.maxAttempts := by
  by_cases hmore : k < s.maxAttempts
  · exact hmore
  · obtain ⟨trial, htrial⟩ :=
      exists_trial_of_le (k := s.maxAttempts - 1) h.trial (by omega)
    have hstops : Stops s schedule start.now (s.maxAttempts - 1) trial :=
      .exhausted hpositive (by omega)
    exact (h.before _ (by omega) trial htrial hstops).elim

/-- The sequence goes on as long as its attempts end. -/
theorem exists_trial_of_ends {n : Nat}
    (hends : ∀ k < n, ∀ turn, turn? s make start k = some turn → finish? s make turn ≠ none)
    (hk : k < n) : ∃ trial, trial? s make start k = some trial := by
  induction k with
  | zero =>
      obtain ⟨finish, hfinish⟩ := Option.ne_none_iff_exists'.mp (hends 0 hk start rfl)
      exact ⟨⟨start, finish⟩, trial?_eq_some_iff.mpr ⟨rfl, hfinish⟩⟩
  | succ k ih =>
      obtain ⟨trial, htrial⟩ := ih (by omega)
      have hturn := turn?_of_trial? htrial
      obtain ⟨finish, hfinish⟩ := Option.ne_none_iff_exists'.mp (hends _ hk _ hturn)
      exact ⟨⟨_, finish⟩, trial?_eq_some_iff.mpr ⟨hturn, hfinish⟩⟩

/-- A limited number of attempts has a first ground to end. -/
theorem exists_first_stop (schedule : Schedule) (hpositive : 0 < s.maxAttempts)
    (hends : ∀ k < s.maxAttempts, ∀ turn, turn? s make start k = some turn →
      finish? s make turn ≠ none) :
    ∃ k last, FirstStop s schedule make start k last := by
  obtain ⟨trial, htrial⟩ :=
    exists_trial_of_ends hends (by omega : s.maxAttempts - 1 < s.maxAttempts)
  have hsome : ∃ k last, trial? s make start k = some last ∧
      Stops s schedule start.now k last :=
    ⟨_, trial, htrial, .exhausted hpositive (by omega)⟩
  classical
  obtain ⟨last, hlast, hstops⟩ := Nat.find_spec hsome
  refine ⟨Nat.find hsome, last, hlast, hstops, ?_⟩
  intro j hj earlier hearlier hearly
  exact Nat.find_min hsome hj ⟨earlier, hearlier, hearly⟩

theorem finish?_of_outlasting {limit : Duration} (hlimit : s.attemptTimeout = some limit)
    (hlate : ∀ finish, (make turn.now turn.world).finish = some finish →
      turn.now.after limit < finish.time) :
    finish? s make turn =
      some ((make turn.now turn.world).drop (turn.now.after limit)) := by
  unfold finish? Course.within
  rw [hlimit]
  cases hfinish : (make turn.now turn.world).finish with
  | none => rfl
  | some finish => simp [Nat.not_le.mpr (hlate finish hfinish)]

/-- A cycle that ends with attempt `k` as that one did. -/
def endAt (s : RetrySettings) (make : Attempt σ α) (start : Turn σ) (k : Nat)
    (last : Trial σ α) : CycleEnd σ α where
  time := last.finish.time
  outcome := last.finish.outcome
  world := last.finish.world
  windows := (List.range (k + 1)).filterMap fun j => (trial? s make start j).map Trial.window

/-- It has made one attempt more than those before the last. -/
theorem FirstStop.windows_length (h : FirstStop s schedule make start k last) :
    (endAt s make start k last).windows.length = k + 1 := by
  have hall : ∀ j ∈ List.range (k + 1),
      ((trial? s make start j).map Trial.window).isSome = true := by
    intro j member
    obtain ⟨trial, htrial⟩ :=
      exists_trial_of_le h.trial (Nat.le_of_lt_succ (List.mem_range.mp member))
    simp [htrial]
  exact (List.filterMap_length_eq_length.mpr hall).trans List.length_range

theorem returns_unstopped_iff
    (hadds : ∀ k last, FirstStop s schedule make start k last →
      Adds s schedule start.now k last) :
    Returns s schedule.unstopped make start done ↔
      ∃ k last, FirstStop s schedule make start k last ∧ done = endAt s make start k last := by
  have hallows : s.Allows 0 := by
    unfold RetrySettings.Allows
    omega
  have hend {k : Nat} {last : Trial σ α} {trials : List (Trial σ α)} {done : CycleEnd σ α}
      (hwindows : done.windows = trials.map Trial.window)
      (hlist : trials = (List.range' 0 (k + 1)).filterMap (trial? s make start))
      (hdone : done.time = last.finish.time ∧ done.outcome = last.finish.outcome ∧
        done.world = last.finish.world) : done = endAt s make start k last := by
    rw [hlist, List.map_filterMap, ← List.range_eq_range'] at hwindows
    cases done
    simp_all [endAt]
  rw [returns_iff]
  constructor
  · rintro ⟨trials, hruns⟩
    obtain ⟨k, last, _, hfirst, hlist, hdone⟩ :=
      hruns.first_stop (k := 0) rfl rfl hallows (by simp) hadds
    exact ⟨k, last, hfirst, hend hruns.windows_eq hlist hdone⟩
  · rintro ⟨k, last, hfirst, rfl⟩
    obtain ⟨done, hruns, hdone⟩ :=
      FirstStop.runs (k := 0) (n := k) (by simpa using hfirst) rfl hallows
        (by simpa using hadds k last hfirst)
    rw [← hend hruns.windows_eq rfl hdone]
    exact ⟨_, hruns⟩

/-- Without a signal a cycle makes its attempts one after the other, up to the first one that
gives a ground to end, and returns what that one came to; it never returns if there is none. An
attempt that outlasts its limit counts as a failure that may be repeated. A limited number of
attempts is kept to, and the cycle returns if they end. -/
theorem returns_at_first_stop (s : RetrySettings) (schedule : Schedule) (make : Attempt σ α)
    (start : Turn σ)
    (hadds : ∀ k last, FirstStop s schedule make start k last →
      Adds s schedule start.now k last) :
    (∀ done, Returns s schedule.unstopped make start done ↔
      ∃ k last, FirstStop s schedule make start k last ∧ done = endAt s make start k last) ∧
    (∀ k last, FirstStop s schedule make start k last →
      (endAt s make start k last).windows.length = k + 1 ∧ (s.enabled = false → k = 0)) ∧
    (∀ turn limit, s.attemptTimeout = some limit →
      (∀ finish, (make turn.now turn.world).finish = some finish →
        turn.now.after limit < finish.time) →
      ∃ finish, finish? s make turn = some finish ∧ finish.time = turn.now.after limit ∧
        finish.outcome = .failed .cancelled ∧ Failure.cancelled.isRetryable = true) ∧
    (0 < s.maxAttempts →
      (∀ done, Returns s schedule.unstopped make start done →
        done.windows.length ≤ s.maxAttempts) ∧
      ((∀ k < s.maxAttempts, ∀ turn, turn? s make start k = some turn →
          finish? s make turn ≠ none) →
        ∃ done, Returns s schedule.unstopped make start done)) := by
  refine ⟨fun done => returns_unstopped_iff hadds, ?_, ?_, ?_⟩
  · intro k last hfirst
    refine ⟨hfirst.windows_length, fun hdisabled => ?_⟩
    cases k with
    | zero => rfl
    | succ k =>
        obtain ⟨trial, htrial⟩ := exists_trial_of_le hfirst.trial (Nat.zero_le (k + 1))
        exact (hfirst.before 0 (by omega) trial htrial (.single hdisabled)).elim
  · intro turn limit hlimit hlate
    exact ⟨_, finish?_of_outlasting hlimit hlate, rfl, rfl, rfl⟩
  · intro hpositive
    constructor
    · intro done hdone
      obtain ⟨k, last, hfirst, rfl⟩ := (returns_unstopped_iff hadds).mp hdone
      rw [hfirst.windows_length]
      exact hfirst.lt_maxAttempts hpositive
    · intro hends
      obtain ⟨k, last, hfirst⟩ := exists_first_stop schedule hpositive hends
      exact ⟨_, (returns_unstopped_iff hadds).mpr ⟨k, last, hfirst, rfl⟩⟩

namespace Sample

/-- Three attempts, with a limit on each and on the whole. -/
def settings : RetrySettings where
  enabled := true
  maxAttempts := 3
  initialBackoff := ⟨100000000, by decide⟩
  maxBackoff := .ofSecs 10
  multiplier := Floating.ofNat .single 2
  maxElapsed := some (.ofSecs 1)
  attemptTimeout := some ⟨40000000, by decide⟩

/-- One attempt hangs, one fails after ten milliseconds and the others succeed. -/
def script : Nat → Scripted
  | 0 => ⟨none, .error .noData⟩
  | 1 => ⟨some 10, .error .noData⟩
  | _ => ⟨some 10, .ok [7]⟩

def outset : Turn Nat := ⟨0, 0, 0⟩

/-- The clock of the elapsed time stands still. -/
def still : Schedule := { Schedule.undisturbed with elapsed := fun _ _ => .zero }

theorem adds (k : Nat) (trial : Trial Nat Bytes) : Adds settings still outset.now k trial := by
  intro _
  have hsum : Duration.zero.add? (settings.delay k) = some (settings.delay k) :=
    Duration.add?_eq_some_iff.mpr (Nat.zero_add _).symm
  show Duration.zero.add? (settings.delay k) ≠ none
  simp [hsum]

end Sample

theorem returns_at_first_stop_third :
    (∀ k last, FirstStop Sample.settings Sample.still (Scripted.numbered Sample.script)
        Sample.outset k last → Adds Sample.settings Sample.still Sample.outset.now k last) ∧
      ∃ last, FirstStop Sample.settings Sample.still (Scripted.numbered Sample.script)
          Sample.outset 2 last ∧ last.finish.time = 361 ∧ last.finish.outcome = .ok [7] := by
  refine ⟨fun k last _ => Sample.adds k last, ?_⟩
  obtain ⟨hreturns, hcount, _⟩ := returns_at_first_stop Sample.settings Sample.still
    (Scripted.numbered Sample.script) Sample.outset fun k last _ => Sample.adds k last
  have hrun : (run Sample.settings Sample.still.unstopped (Scripted.numbered Sample.script) 4 0 0
      0).map (fun done => (done.windows.length, done.time, done.outcome)) =
        some (3, 361, .ok [7]) := by
    decide +kernel
  obtain ⟨done, hdone, hshown⟩ := Option.map_eq_some_iff.mp hrun
  obtain ⟨k, last, hfirst, rfl⟩ := (hreturns done).mp ⟨4, hdone⟩
  obtain ⟨hlength, hend⟩ := Prod.mk.inj hshown
  obtain rfl : k = 2 := by
    have hlast := (hcount k last hfirst).1
    omega
  exact ⟨last, hfirst, (Prod.mk.inj hend).1, (Prod.mk.inj hend).2⟩

end Cycle

end WorkloadIdentity
