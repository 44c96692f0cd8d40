import WorkloadIdentity.Retry.Cycle

/-!
A cycle taken round by round. A round is one attempt with what follows from its end: a pause and
another round, or the end of the cycle. `Cycle.Leads` says which attempts lead from one turn to a
later one and `Cycle.Runs` which lead to the end. Both do without fuel, and `Cycle.returns_iff`
says that they are what a cycle computes, whether or not it may try again.
-/

namespace WorkloadIdentity

def Outcome.isOk {α : Type} : Outcome α → Bool
  | .ok _ => true
  | _ => false

/-- Where an attempt is due, with its number and the world in which it starts. -/
structure Turn (σ : Type) where
  number : Nat
  now : Instant
  world : σ

/-- An attempt as it was made. -/
structure Trial (σ α : Type) where
  turn : Turn σ
  finish : Finish σ α

namespace Trial

variable {σ α : Type}

def window (trial : Trial σ α) : Window :=
  ⟨trial.turn.now, trial.finish.time, trial.finish.dropped⟩

def succeeded (trial : Trial σ α) : Bool := trial.finish.outcome.isOk

/-- The turn that follows when the pause is over. -/
def next (trial : Trial σ α) (wake : Instant) : Turn σ :=
  ⟨trial.turn.number + 1, wake, trial.finish.world⟩

end Trial

namespace CycleEnd

variable {σ α : Type}

def ofTrial (trial : Trial σ α) (outcome : Outcome α) (time : Instant) : CycleEnd σ α :=
  { time, outcome, world := trial.finish.world, windows := [trial.window] }

/-- The signal came before an attempt. -/
def ofSkipped (turn : Turn σ) : CycleEnd σ α :=
  { time := turn.now, outcome := .failed .cancelled, world := turn.world, windows := [] }

/-- The end of a cycle with one more attempt in front. -/
def after (trial : Trial σ α) (done : CycleEnd σ α) : CycleEnd σ α :=
  { done with windows := trial.window :: done.windows }

end CycleEnd

namespace Cycle

variable {σ α : Type} {s : RetrySettings} {schedule : Schedule} {make : Attempt σ α}
  {started : Instant} {backoff later : Backoff} {turn final : Turn σ} {trial : Trial σ α}
  {trials front : List (Trial σ α)} {done : CycleEnd σ α}

/-! ### One round -/

/-- What follows an attempt: the end of the cycle, or another turn after a pause. -/
inductive Sequel (α : Type) where
  | ends (outcome : Outcome α) (time : Instant)
  | pauses (backoff : Backoff) (wake : Instant)

/-- A pause, unless the signal is seen before it is over. -/
def pause (schedule : Schedule) (trial : Trial σ α) (delay : Duration) (backoff : Backoff) :
    Sequel α :=
  let wake := trial.finish.time.after delay
  match schedule.interrupts? trial.finish.time wake (schedule.pauseFirst trial.turn.number) with
  | some seen => .ends (.failed .cancelled) seen
  | none => .pauses backoff wake

/-- What follows a failure before there is a signal. -/
def proceed (s : RetrySettings) (schedule : Schedule) (started : Instant) (backoff : Backoff)
    (trial : Trial σ α) (failure : Failure) : Sequel α :=
  let elapsed := schedule.elapsed trial.turn.number (trial.finish.time - started)
  match s.decide elapsed backoff failure with
  | .fail failure => .ends (.failed failure) trial.finish.time
  | .overflow => .ends .overflow trial.finish.time
  | .pause delay backoff => pause schedule trial delay backoff

def sequel (s : RetrySettings) (schedule : Schedule) (started : Instant) (backoff : Backoff)
    (trial : Trial σ α) : Sequel α :=
  if s.enabled then
    match trial.finish.outcome with
    | .failed failure =>
      if schedule.stopped trial.finish.time then .ends (.failed .cancelled) trial.finish.time
      else proceed s schedule started backoff trial failure
    | outcome => .ends outcome trial.finish.time
  else .ends trial.finish.outcome trial.finish.time

theorem sequel_disabled (h : s.enabled = false) :
    sequel s schedule started backoff trial =
      .ends trial.finish.outcome trial.finish.time := by
  rw [sequel, h]
  rfl

theorem sequel_failed {failure : Failure} (henabled : s.enabled = true)
    (houtcome : trial.finish.outcome = .failed failure)
    (hstopped : schedule.stopped trial.finish.time = false) :
    sequel s schedule started backoff trial =
      proceed s schedule started backoff trial failure := by
  simp only [sequel, henabled, if_true, houtcome, hstopped, Bool.false_eq_true, if_false]

/-- The cycle ends, with a success if the attempt is one, and does so at the end of the attempt or
where the signal is seen in the pause; or the pause after a failure comes to its end. -/
theorem sequel_cases (s : RetrySettings) (schedule : Schedule) (started : Instant)
    (backoff : Backoff) (trial : Trial σ α) :
    (∃ outcome time, sequel s schedule started backoff trial = .ends outcome time ∧
      outcome.isOk = trial.succeeded ∧
      (time = trial.finish.time ∨ ∃ wake wakeFirst,
        schedule.interrupts? trial.finish.time wake wakeFirst = some time)) ∨
    ∃ failure delay next, sequel s schedule started backoff trial =
        .pauses next (trial.finish.time.after delay) ∧
      s.enabled = true ∧ trial.finish.outcome = .failed failure ∧
      s.decide (schedule.elapsed trial.turn.number (trial.finish.time - started)) backoff
        failure = .pause delay next := by
  unfold Trial.succeeded
  cases henabled : s.enabled with
  | false => exact Or.inl ⟨_, _, sequel_disabled henabled, rfl, Or.inl rfl⟩
  | true =>
      cases houtcome : trial.finish.outcome with
      | ok value =>
          refine Or.inl ⟨.ok value, trial.finish.time, ?_, rfl, Or.inl rfl⟩
          simp only [sequel, henabled, if_true, houtcome]
      | overflow =>
          refine Or.inl ⟨.overflow, trial.finish.time, ?_, rfl, Or.inl rfl⟩
          simp only [sequel, henabled, if_true, houtcome]
      | failed failure =>
          cases hstopped : schedule.stopped trial.finish.time with
          | true =>
              refine Or.inl ⟨.failed .cancelled, trial.finish.time, ?_, rfl, Or.inl rfl⟩
              simp only [sequel, henabled, if_true, houtcome, hstopped]
          | false =>
              rw [sequel_failed henabled houtcome hstopped, proceed]
              cases hdecide : s.decide (schedule.elapsed trial.turn.number
                  (trial.finish.time - started)) backoff failure with
              | fail other => exact Or.inl ⟨.failed other, _, rfl, rfl, Or.inl rfl⟩
              | overflow => exact Or.inl ⟨.overflow, _, rfl, rfl, Or.inl rfl⟩
              | pause delay next =>
                  dsimp only [pause]
                  cases hseen : schedule.interrupts? trial.finish.time
                      (trial.finish.time.after delay)
                      (schedule.pauseFirst trial.turn.number) with
                  | some seen =>
                      exact Or.inl ⟨.failed .cancelled, seen, rfl, rfl, Or.inr ⟨_, _, hseen⟩⟩
                  | none => exact Or.inr ⟨failure, delay, next, rfl, rfl, rfl, hdecide⟩

theorem sequel_ends {outcome : Outcome α} {time : Instant}
    (h : sequel s schedule started backoff trial = .ends outcome time) :
    outcome.isOk = trial.succeeded ∧ (time = trial.finish.time ∨ ∃ wake wakeFirst,
      schedule.interrupts? trial.finish.time wake wakeFirst = some time) := by
  rcases sequel_cases s schedule started backoff trial with
    ⟨_, _, hends, hfacts⟩ | ⟨_, _, _, hpauses, _⟩
  · cases h.symm.trans hends
    exact hfacts
  · cases h.symm.trans hpauses

theorem sequel_pauses {next : Backoff} {wake : Instant}
    (h : sequel s schedule started backoff trial = .pauses next wake) :
    s.enabled = true ∧ ∃ failure delay, trial.finish.outcome = .failed failure ∧
      s.decide (schedule.elapsed trial.turn.number (trial.finish.time - started)) backoff
        failure = .pause delay next ∧
      wake = trial.finish.time.after delay := by
  rcases sequel_cases s schedule started backoff trial with
    ⟨_, _, hends, _⟩ | ⟨failure, delay, _, hpauses, henabled, houtcome, hdecide⟩
  · cases h.symm.trans hends
  · cases h.symm.trans hpauses
    exact ⟨henabled, failure, delay, houtcome, hdecide, rfl⟩

def attemptAt (s : RetrySettings) (schedule : Schedule) (make : Attempt σ α) (turn : Turn σ) :
    Made σ α :=
  attempt s schedule make turn.number turn.now turn.world

/-! ### All rounds -/

/-- These attempts lead from one turn to another, with a pause after each. -/
inductive Leads (s : RetrySettings) (schedule : Schedule) (make : Attempt σ α)
    (started : Instant) :
    Backoff → Turn σ → List (Trial σ α) → Backoff → Turn σ → Prop
  | here (backoff : Backoff) (turn : Turn σ) :
      Leads s schedule make started backoff turn [] backoff turn
  | paused {backoff next later : Backoff} {turn final : Turn σ} {finish : Finish σ α}
      {wake : Instant} {trials : List (Trial σ α)} :
      attemptAt s schedule make turn = .finished finish →
      sequel s schedule started backoff ⟨turn, finish⟩ = .pauses next wake →
      Leads s schedule make started next (Trial.next ⟨turn, finish⟩ wake) trials later final →
      Leads s schedule make started backoff turn (⟨turn, finish⟩ :: trials) later final

/-- These attempts lead from a turn to the end of the cycle. -/
inductive Runs (s : RetrySettings) (schedule : Schedule) (make : Attempt σ α)
    (started : Instant) :
    Backoff → Turn σ → List (Trial σ α) → CycleEnd σ α → Prop
  | skipped {backoff : Backoff} {turn : Turn σ} :
      attemptAt s schedule make turn = .skipped →
      Runs s schedule make started backoff turn [] (.ofSkipped turn)
  | ended {backoff : Backoff} {turn : Turn σ} {finish : Finish σ α} {outcome : Outcome α}
      {time : Instant} :
      attemptAt s schedule make turn = .finished finish →
      sequel s schedule started backoff ⟨turn, finish⟩ = .ends outcome time →
      Runs s schedule make started backoff turn [⟨turn, finish⟩]
        (.ofTrial ⟨turn, finish⟩ outcome time)
  | paused {backoff next : Backoff} {turn : Turn σ} {finish : Finish σ α} {wake : Instant}
      {trials : List (Trial σ α)} {done : CycleEnd σ α} :
      attemptAt s schedule make turn = .finished finish →
      sequel s schedule started backoff ⟨turn, finish⟩ = .pauses next wake →
      Runs s schedule make started next (Trial.next ⟨turn, finish⟩ wake) trials done →
      Runs s schedule make started backoff turn (⟨turn, finish⟩ :: trials)
        (.after ⟨turn, finish⟩ done)

/-- A cycle that starts at a turn comes to this end. -/
def Returns (s : RetrySettings) (schedule : Schedule) (make : Attempt σ α) (turn : Turn σ)
    (done : CycleEnd σ α) : Prop :=
  ∃ fuel, run s schedule make fuel turn.number turn.now turn.world = some done

/-! ### Rounds with fuel -/

/-- The rest of a cycle by the sequel of its next attempt. -/
theorem runFrom_succ (h : s.enabled = true) (fuel : Nat) :
    runFrom s schedule make started (fuel + 1) turn.number backoff turn.now turn.world =
      match attemptAt s schedule make turn with
      | .endless => none
      | .skipped => some (.ofSkipped turn)
      | .finished finish =>
        match sequel s schedule started backoff ⟨turn, finish⟩ with
        | .ends outcome time => some (.ofTrial ⟨turn, finish⟩ outcome time)
        | .pauses next wake =>
          (runFrom s schedule make started fuel (turn.number + 1) next wake finish.world).map
            (.after ⟨turn, finish⟩) := by
  rw [runFrom, attemptAt]
  cases attempt s schedule make turn.number turn.now turn.world with
  | endless => rfl
  | skipped => rfl
  | finished finish =>
      simp only [sequel, h, if_true]
      cases finish.outcome with
      | ok value => rfl
      | overflow => rfl
      | failed failure =>
          dsimp only
          cases schedule.stopped finish.time with
          | true => rfl
          | false =>
              simp only [proceed, Bool.false_eq_true, if_false]
              cases s.decide (schedule.elapsed turn.number (finish.time - started)) backoff
                  failure with
              | fail failure => rfl
              | overflow => rfl
              | pause delay next =>
                  simp only [pause]
                  cases schedule.interrupts? finish.time (finish.time.after delay)
                      (schedule.pauseFirst turn.number) <;> rfl

theorem run_disabled (h : s.enabled = false) (fuel : Nat) :
    run s schedule make fuel turn.number turn.now turn.world =
      match attemptAt s schedule make turn with
      | .endless => none
      | .skipped => some (.ofSkipped turn)
      | .finished finish => some (.ofTrial ⟨turn, finish⟩ finish.outcome finish.time) := by
  rw [run, h]
  rfl

private theorem runs_of_runFrom (h : s.enabled = true) {fuel : Nat}
    (hrun : runFrom s schedule make started fuel turn.number backoff turn.now turn.world =
      some done) :
    ∃ trials, Runs s schedule make started backoff turn trials done := by
  induction fuel generalizing backoff turn done with
  | zero => cases hrun
  | succ fuel ih =>
      rw [runFrom_succ h] at hrun
      cases hattempt : attemptAt s schedule make turn with
      | endless => simp [hattempt] at hrun
      | skipped =>
          simp only [hattempt, Option.some.injEq] at hrun
          subst hrun
          exact ⟨[], .skipped hattempt⟩
      | finished finish =>
          simp only [hattempt] at hrun
          cases hsequel : sequel s schedule started backoff ⟨turn, finish⟩ with
          | ends outcome time =>
              simp only [hsequel, Option.some.injEq] at hrun
              subst hrun
              exact ⟨[_], .ended hattempt hsequel⟩
          | pauses next wake =>
              simp only [hsequel, Option.map_eq_some_iff] at hrun
              obtain ⟨rest, hrest, rfl⟩ := hrun
              obtain ⟨trials, hruns⟩ : ∃ trials, Runs s schedule make started next
                  (Trial.next ⟨turn, finish⟩ wake) trials rest := ih hrest
              exact ⟨_ :: trials, .paused hattempt hsequel hruns⟩

theorem Runs.runFrom_eq (h : Runs s schedule make started backoff turn trials done)
    (henabled : s.enabled = true) {fuel : Nat} (hfuel : trials.length < fuel) :
    runFrom s schedule make started fuel turn.number backoff turn.now turn.world =
      some done := by
  induction h generalizing fuel with
  | skipped hattempt =>
      obtain ⟨fuel, rfl⟩ := Nat.exists_eq_succ_of_ne_zero (Nat.ne_zero_of_lt hfuel)
      rw [runFrom_succ henabled, hattempt]
  | ended hattempt hsequel =>
      obtain ⟨fuel, rfl⟩ := Nat.exists_eq_succ_of_ne_zero (Nat.ne_zero_of_lt hfuel)
      rw [runFrom_succ henabled, hattempt]
      simp only [hsequel]
  | paused hattempt hsequel _ ih =>
      obtain ⟨fuel, rfl⟩ := Nat.exists_eq_succ_of_ne_zero (Nat.ne_zero_of_lt hfuel)
      rw [runFrom_succ henabled, hattempt]
      simp only [hsequel]
      have hrest := ih (by simpa using hfuel : _ < fuel)
      simp only [Trial.next] at hrest
      rw [hrest]
      rfl

private theorem runs_of_disabled (h : s.enabled = false) {fuel : Nat}
    (hrun : run s schedule make fuel turn.number turn.now turn.world = some done) :
    ∃ trials, Runs s schedule make started backoff turn trials done := by
  rw [run_disabled h] at hrun
  cases hattempt : attemptAt s schedule make turn with
  | endless => simp [hattempt] at hrun
  | skipped =>
      simp only [hattempt, Option.some.injEq] at hrun
      subst hrun
      exact ⟨[], .skipped hattempt⟩
  | finished finish =>
      simp only [hattempt, Option.some.injEq] at hrun
      subst hrun
      exact ⟨[_], .ended hattempt (sequel_disabled h)⟩

private theorem Runs.run_disabled_eq (h : Runs s schedule make started backoff turn trials done)
    (hdisabled : s.enabled = false) (fuel : Nat) :
    run s schedule make fuel turn.number turn.now turn.world = some done := by
  rw [run_disabled hdisabled]
  cases h with
  | skipped hattempt => rw [hattempt]
  | ended hattempt hsequel =>
      rw [sequel_disabled hdisabled] at hsequel
      cases hsequel
      rw [hattempt]
  | paused hattempt hsequel _ =>
      rw [sequel_disabled hdisabled] at hsequel
      cases hsequel

theorem Runs.run_eq (h : Runs s schedule make turn.now (.ofSettings s) turn trials done)
    {fuel : Nat} (hfuel : trials.length < fuel) :
    run s schedule make fuel turn.number turn.now turn.world = some done := by
  cases henabled : s.enabled with
  | false => exact h.run_disabled_eq henabled fuel
  | true =>
      rw [run, henabled]
      exact h.runFrom_eq henabled hfuel

/-- The rounds of a cycle are what it computes, if it is given enough fuel. -/
theorem returns_iff : Returns s schedule make turn done ↔
    ∃ trials, Runs s schedule make turn.now (.ofSettings s) turn trials done := by
  constructor
  · rintro ⟨fuel, hrun⟩
    cases henabled : s.enabled with
    | false => exact runs_of_disabled henabled hrun
    | true =>
        rw [run, henabled] at hrun
        exact runs_of_runFrom henabled hrun
  · rintro ⟨trials, hruns⟩
    exact ⟨trials.length + 1, hruns.run_eq (Nat.lt_succ_self _)⟩

/-! ### What the rounds settle -/

theorem Runs.unique {others : List (Trial σ α)} {other : CycleEnd σ α}
    (h : Runs s schedule make started backoff turn trials done)
    (hother : Runs s schedule make started backoff turn others other) :
    others = trials ∧ other = done := by
  induction h generalizing others other with
  | skipped hattempt =>
      cases hother with
      | skipped _ => exact ⟨rfl, rfl⟩
      | ended hmade _ => simp [hattempt] at hmade
      | paused hmade _ _ => simp [hattempt] at hmade
  | ended hattempt hsequel =>
      cases hother with
      | skipped hmade => simp [hattempt] at hmade
      | ended hmade hnext =>
          obtain rfl := Made.finished.inj (hattempt.symm.trans hmade)
          cases hsequel.symm.trans hnext
          exact ⟨rfl, rfl⟩
      | paused hmade hnext _ =>
          obtain rfl := Made.finished.inj (hattempt.symm.trans hmade)
          cases hsequel.symm.trans hnext
  | paused hattempt hsequel _ ih =>
      cases hother with
      | skipped hmade => simp [hattempt] at hmade
      | ended hmade hnext =>
          obtain rfl := Made.finished.inj (hattempt.symm.trans hmade)
          cases hsequel.symm.trans hnext
      | paused hmade hnext hrest =>
          obtain rfl := Made.finished.inj (hattempt.symm.trans hmade)
          cases hsequel.symm.trans hnext
          obtain ⟨rfl, rfl⟩ := ih hrest
          exact ⟨rfl, rfl⟩

theorem Returns.unique {other : CycleEnd σ α} (h : Returns s schedule make turn done)
    (hother : Returns s schedule make turn other) : other = done := by
  obtain ⟨_, hruns⟩ := returns_iff.mp h
  obtain ⟨_, hothers⟩ := returns_iff.mp hother
  exact (hruns.unique hothers).2

theorem Runs.windows_eq (h : Runs s schedule make started backoff turn trials done) :
    done.windows = trials.map Trial.window := by
  induction h with
  | skipped _ => rfl
  | ended _ _ => rfl
  | paused _ _ _ ih => simp [CycleEnd.after, ih]

/-- What holds of the world at the start and is kept by every attempt holds at the end. -/
theorem Runs.keeps {Holds : List (Trial σ α) → σ → Prop}
    (hstep : ∀ trials turn finish, Holds trials turn.world →
      attemptAt s schedule make turn = .finished finish →
      Holds (trials ++ [⟨turn, finish⟩]) finish.world)
    (h : Runs s schedule make started backoff turn trials done) {before : List (Trial σ α)}
    (hstart : Holds before turn.world) : Holds (before ++ trials) done.world := by
  induction h generalizing before with
  | skipped _ =>
      rw [List.append_nil]
      exact hstart
  | ended hattempt _ => exact hstep _ _ _ hstart hattempt
  | paused hattempt _ _ ih =>
      have hrest := ih (hstep _ _ _ hstart hattempt)
      rw [List.append_assoc] at hrest
      exact hrest

/-- One attempt of a cycle that succeeds has succeeded, and none of one that does not. -/
theorem Runs.count_succeeded (h : Runs s schedule make started backoff turn trials done) :
    trials.countP Trial.succeeded = done.outcome.isOk.toNat := by
  induction h with
  | skipped _ => rfl
  | ended _ hsequel =>
      have houtcome := (sequel_ends hsequel).1
      rw [List.countP_singleton, CycleEnd.ofTrial, houtcome]
      cases Trial.succeeded _ with
      | true => rfl
      | false => rfl
  | @paused backoff next turn finish wake trials done _ hsequel _ ih =>
      obtain ⟨_, failure, _, houtcome, _⟩ := sequel_pauses hsequel
      have hfailed : Trial.succeeded ⟨turn, finish⟩ = false := by
        rw [Trial.succeeded, houtcome]
        rfl
      rw [List.countP_cons, hfailed, ih]
      rfl

theorem Leads.runs (h : Leads s schedule make started backoff turn front later final)
    (hrest : Runs s schedule make started later final trials done) :
    Runs s schedule make started backoff turn (front ++ trials)
      { done with windows := front.map Trial.window ++ done.windows } := by
  induction h with
  | here => exact hrest
  | paused hattempt hsequel _ ih => exact .paused hattempt hsequel (ih hrest)

end Cycle

end WorkloadIdentity
