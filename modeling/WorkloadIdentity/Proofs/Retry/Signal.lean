import WorkloadIdentity.Proofs.Retry.Windows

/-!
What a signal does to a cycle. It is compared with the same cycle without a signal: up to the
instant of the signal both go the same way, round by round, and there the one that can be stopped
ends. `Cycle.CutAt` says how, according to whether an attempt is under way then or a pause.
-/

namespace WorkloadIdentity

def Schedule.stoppingAt (schedule : Schedule) (stop : Instant) : Schedule :=
  { schedule with stopAt := some stop }

namespace Cycle

variable {σ α : Type} {s : RetrySettings} {schedule : Schedule} {make : Attempt σ α}
  {started stop : Instant} {backoff next later : Backoff} {turn final : Turn σ}
  {trial : Trial σ α} {front trials : List (Trial σ α)} {done : CycleEnd σ α}
  {finish : Finish σ α} {k : Nat}

/-! ### Waiting for a signal -/

theorem interrupts?_before {now wake : Instant} {wakeFirst : Bool} (hnow : now ≤ stop)
    (hwake : wake < stop) :
    (schedule.stoppingAt stop).interrupts? now wake wakeFirst = none := by
  simp [Schedule.interrupts?, Schedule.stoppingAt, Nat.max_eq_right hnow, hwake]

theorem interrupts?_after {now wake : Instant} {wakeFirst : Bool} (hnow : now ≤ stop)
    (hwake : stop < wake) :
    (schedule.stoppingAt stop).interrupts? now wake wakeFirst = some stop := by
  have hlate : ¬wake < stop := Nat.not_lt_of_lt hwake
  simp [Schedule.interrupts?, Schedule.stoppingAt, Nat.max_eq_right hnow, hlate,
    Nat.ne_of_gt hwake]

theorem stopped_stoppingAt {now : Instant} :
    (schedule.stoppingAt stop).stopped now = true ↔ stop ≤ now := by
  simp [Schedule.stopped, Schedule.stoppingAt]

/-! ### An attempt and the signal -/

private theorem attemptAt_stoppingAt (hnow : turn.now < stop) :
    attemptAt s (schedule.stoppingAt stop) make turn =
      match finish? s make turn with
      | some own =>
        match (schedule.stoppingAt stop).interrupts? turn.now own.time
            (schedule.attemptFirst turn.number) with
        | some seen => .finished ((make turn.now turn.world).drop seen)
        | none => .finished own
      | none => .finished ((make turn.now turn.world).drop stop) := by
  have hstopped : (schedule.stoppingAt stop).stopped turn.now = false := by
    rw [Bool.eq_false_iff, ne_eq, stopped_stoppingAt]
    exact Nat.not_le_of_lt hnow
  unfold attemptAt attempt Course.under finish?
  simp only [hstopped, Bool.false_and, Bool.false_eq_true, if_false, within_drop]
  cases ((make turn.now turn.world).within s.attemptTimeout turn.now).finish with
  | none =>
      simp [Schedule.stoppingAt, Nat.max_eq_right (Nat.le_of_lt hnow)]
  | some own =>
      dsimp only
      have hfirst : (schedule.stoppingAt stop).attemptFirst = schedule.attemptFirst := rfl
      rw [hfirst]
      cases (schedule.stoppingAt stop).interrupts? turn.now own.time
        (schedule.attemptFirst turn.number) <;> rfl

theorem attemptAt_before (hnow : turn.now < stop) (hfinish : finish? s make turn = some finish)
    (hearly : finish.time < stop) :
    attemptAt s (schedule.stoppingAt stop) make turn = .finished finish := by
  rw [attemptAt_stoppingAt hnow, hfinish]
  simp only [interrupts?_before (Nat.le_of_lt hnow) hearly]

/-- The signal comes before the end of the attempt. -/
theorem attemptAt_cut (hnow : turn.now < stop)
    (hlate : ∀ own, finish? s make turn = some own → stop < own.time) :
    attemptAt s (schedule.stoppingAt stop) make turn =
      .finished ((make turn.now turn.world).drop stop) := by
  rw [attemptAt_stoppingAt hnow]
  cases hown : finish? s make turn with
  | none => rfl
  | some own => simp only [interrupts?_after (Nat.le_of_lt hnow) (hlate own hown)]

theorem attemptAt_unstopped_iff :
    attemptAt s schedule.unstopped make turn = .finished finish ↔
      finish? s make turn = some finish := by
  rw [attemptAt_unstopped]
  cases finish? s make turn <;> simp

/-! ### A pause and the signal -/

theorem pause_before {delay : Duration} (hearly : trial.finish.time < stop)
    (hwake : trial.finish.time.after delay < stop) :
    pause (schedule.stoppingAt stop) trial delay next =
      .pauses next (trial.finish.time.after delay) := by
  rw [pause]
  simp only [interrupts?_before (Nat.le_of_lt hearly) hwake]

theorem pause_cut {delay : Duration} (hearly : trial.finish.time < stop)
    (hwake : stop < trial.finish.time.after delay) :
    pause (schedule.stoppingAt stop) trial delay next = .ends (.failed .cancelled) stop := by
  rw [pause]
  simp only [interrupts?_after (Nat.le_of_lt hearly) hwake]

private theorem stopped_before (hearly : trial.finish.time < stop) :
    (schedule.stoppingAt stop).stopped trial.finish.time = false := by
  rw [Bool.eq_false_iff, ne_eq, stopped_stoppingAt]
  exact Nat.not_le_of_lt hearly

/-- After a failure the same pause begins. -/
theorem sequel_stoppingAt_pauses (hearly : trial.finish.time < stop) {wake : Instant}
    (h : sequel s schedule.unstopped started backoff trial = .pauses next wake) :
    ∃ delay, wake = trial.finish.time.after delay ∧
      sequel s (schedule.stoppingAt stop) started backoff trial =
        pause (schedule.stoppingAt stop) trial delay next := by
  obtain ⟨henabled, failure, delay, houtcome, hdecide, hwake⟩ := sequel_pauses h
  have hsame : s.decide ((schedule.stoppingAt stop).elapsed trial.turn.number
      (trial.finish.time - started)) backoff failure = .pause delay next := hdecide
  refine ⟨delay, hwake, ?_⟩
  rw [sequel_failed henabled houtcome (stopped_before hearly), proceed, hsame]

theorem sequel_before (hearly : trial.finish.time < stop) {wake : Instant}
    (h : sequel s schedule.unstopped started backoff trial = .pauses next wake)
    (hwake : wake < stop) :
    sequel s (schedule.stoppingAt stop) started backoff trial = .pauses next wake := by
  obtain ⟨delay, rfl, hpause⟩ := sequel_stoppingAt_pauses hearly h
  rw [hpause]
  exact pause_before hearly hwake

/-- The signal comes before the end of the pause. -/
theorem sequel_cut (hearly : trial.finish.time < stop) {wake : Instant}
    (h : sequel s schedule.unstopped started backoff trial = .pauses next wake)
    (hwake : stop < wake) :
    sequel s (schedule.stoppingAt stop) started backoff trial =
      .ends (.failed .cancelled) stop := by
  obtain ⟨delay, rfl, hpause⟩ := sequel_stoppingAt_pauses hearly h
  rw [hpause]
  exact pause_cut hearly hwake

theorem sequel_ends_before (hearly : trial.finish.time < stop) {outcome : Outcome α}
    {time : Instant}
    (h : sequel s schedule.unstopped started backoff trial = .ends outcome time) :
    sequel s (schedule.stoppingAt stop) started backoff trial = .ends outcome time := by
  cases henabled : s.enabled with
  | false =>
      rw [sequel_disabled henabled] at h ⊢
      exact h
  | true =>
      cases houtcome : trial.finish.outcome with
      | ok value => simpa only [sequel, henabled, if_true, houtcome] using h
      | overflow => simpa only [sequel, henabled, if_true, houtcome] using h
      | failed failure =>
          rw [sequel_unstopped_failed henabled houtcome] at h
          rw [sequel_failed henabled houtcome (stopped_before hearly), proceed]
          have helapsed : (schedule.stoppingAt stop).elapsed = schedule.elapsed := rfl
          rw [helapsed]
          cases hdecide : s.decide (schedule.elapsed trial.turn.number
              (trial.finish.time - started)) backoff failure with
          | fail failure => simpa only [hdecide] using h
          | overflow => simpa only [hdecide] using h
          | pause delay next => simp [hdecide] at h

/-- The signal has come before the end of the attempt. -/
theorem sequel_of_dropped (course : Course σ α) :
    sequel s (schedule.stoppingAt stop) started backoff ⟨turn, course.drop stop⟩ =
      .ends (.failed .cancelled) stop := by
  cases henabled : s.enabled with
  | false => exact sequel_disabled henabled
  | true =>
      have hstopped : (schedule.stoppingAt stop).stopped stop = true :=
        stopped_stoppingAt.mpr (Nat.le_refl _)
      simp only [sequel, henabled, if_true, Course.drop, hstopped]

/-- Without a signal a cycle ends with an attempt. -/
theorem sequel_unstopped_ends {outcome : Outcome α} {time : Instant}
    (h : sequel s schedule.unstopped started backoff trial = .ends outcome time) :
    time = trial.finish.time := by
  rcases (sequel_ends h).2 with htime | ⟨_, _, hseen⟩
  · exact htime
  · cases hseen

/-! ### All rounds -/

theorem Leads.now_le (hforward : make.GoesForward)
    (h : Leads s schedule make started backoff turn front later final) :
    turn.now ≤ final.now ∧
      ∀ trial ∈ front, trial.turn.now ≤ trial.finish.time ∧ trial.finish.time ≤ final.now := by
  induction h with
  | here => simp
  | @paused backoff next later turn final finish wake trials hattempt hsequel _ ih =>
      have hnow := (attemptAt_time hforward hattempt).1
      have hfinish : finish.time ≤ final.now := Nat.le_trans (sequel_pauses_le hsequel) ih.1
      refine ⟨Nat.le_trans hnow hfinish, ?_⟩
      intro trial htrial
      rcases List.mem_cons.mp htrial with rfl | htrial
      · exact ⟨hnow, hfinish⟩
      · exact ih.2 trial htrial

theorem Leads.length_le (h : Leads s schedule make started backoff turn front later final)
    (hruns : Runs s schedule make started backoff turn trials done) :
    front.length ≤ trials.length := by
  induction h generalizing trials done with
  | here => exact Nat.zero_le _
  | paused hattempt hsequel _ ih =>
      cases hruns with
      | skipped hmade => simp [hattempt] at hmade
      | ended hmade hends =>
          obtain rfl := Made.finished.inj (hattempt.symm.trans hmade)
          cases hsequel.symm.trans hends
      | paused hmade hpauses hrest =>
          obtain rfl := Made.finished.inj (hattempt.symm.trans hmade)
          cases hsequel.symm.trans hpauses
          exact Nat.succ_le_succ (ih hrest)

/-- A round that is over before the signal is the same with it. -/
theorem round_before (hforward : make.GoesForward) {wake : Instant}
    (hattempt : attemptAt s schedule.unstopped make turn = .finished finish)
    (hsequel : sequel s schedule.unstopped started backoff ⟨turn, finish⟩ = .pauses next wake)
    (hwake : wake < stop) :
    attemptAt s (schedule.stoppingAt stop) make turn = .finished finish ∧
      sequel s (schedule.stoppingAt stop) started backoff ⟨turn, finish⟩ = .pauses next wake := by
  have hfinish : finish.time < stop := Nat.lt_of_le_of_lt (sequel_pauses_le hsequel) hwake
  have hnow : turn.now < stop := Nat.lt_of_le_of_lt (attemptAt_time hforward hattempt).1 hfinish
  exact ⟨attemptAt_before hnow (attemptAt_unstopped_iff.mp hattempt) hfinish,
    sequel_before hfinish hsequel hwake⟩

theorem Leads.stoppingAt (hforward : make.GoesForward)
    (h : Leads s schedule.unstopped make started backoff turn front later final)
    (hbefore : final.now < stop) :
    Leads s (schedule.stoppingAt stop) make started backoff turn front later final := by
  induction h with
  | here => exact .here _ _
  | @paused backoff next later turn final finish wake trials hattempt hsequel hrest ih =>
      have hwake : wake < stop := Nat.lt_of_le_of_lt (hrest.now_le hforward).1 hbefore
      obtain ⟨hmade, hpauses⟩ := round_before hforward hattempt hsequel hwake
      exact .paused hmade hpauses (ih hbefore)

/-- A cycle that ends before the signal does not notice it. -/
theorem Runs.stoppingAt (hforward : make.GoesForward)
    (h : Runs s schedule.unstopped make started backoff turn trials done)
    (hbefore : done.time < stop) :
    Runs s (schedule.stoppingAt stop) make started backoff turn trials done := by
  induction h with
  | skipped hattempt =>
      rw [attemptAt_unstopped] at hattempt
      split at hattempt <;> cases hattempt
  | ended hattempt hsequel =>
      have hfinish := Nat.lt_of_le_of_lt (sequel_ends_le hsequel) hbefore
      have hnow := Nat.lt_of_le_of_lt (attemptAt_time hforward hattempt).1 hfinish
      exact .ended (attemptAt_before hnow (attemptAt_unstopped_iff.mp hattempt) hfinish)
        (sequel_ends_before hfinish hsequel)
  | @paused backoff next turn finish wake trials done hattempt hsequel hrest ih =>
      have hwake : wake < stop := Nat.lt_of_le_of_lt (hrest.stops_by_end hforward).1 hbefore
      obtain ⟨hmade, hpauses⟩ := round_before hforward hattempt hsequel hwake
      exact .paused hmade hpauses (ih hbefore)

/-! ### The end at the signal -/

/-- How a cycle ends that has not come to its own end before the signal at `stop`. -/
inductive CutAt (s : RetrySettings) (schedule : Schedule) (make : Attempt σ α)
    (started : Instant) (backoff : Backoff) (turn : Turn σ) (stop : Instant) :
    CycleEnd σ α → Prop
  /-- The attempt that is under way is dropped. -/
  | attempt {later : Backoff} {final : Turn σ} {front : List (Trial σ α)} :
      Leads s schedule.unstopped make started backoff turn front later final →
      final.now < stop →
      (∀ own, finish? s make final = some own → stop < own.time) →
      CutAt s schedule make started backoff turn stop {
        time := stop
        outcome := .failed .cancelled
        world := (make final.now final.world).droppedAt stop
        windows := front.map Trial.window ++ [⟨final.now, stop, true⟩] }
  /-- The pause is given up. -/
  | pause {later next : Backoff} {final : Turn σ} {front : List (Trial σ α)}
      {finish : Finish σ α} {wake : Instant} :
      Leads s schedule.unstopped make started backoff turn front later final →
      finish? s make final = some finish →
      sequel s schedule.unstopped started later ⟨final, finish⟩ = .pauses next wake →
      finish.time < stop → stop < wake →
      CutAt s schedule make started backoff turn stop {
        time := stop
        outcome := .failed .cancelled
        world := finish.world
        windows := front.map Trial.window ++ [Trial.window ⟨final, finish⟩] }

theorem CutAt.after {wake : Instant}
    (hattempt : attemptAt s schedule.unstopped make turn = .finished finish)
    (hsequel : sequel s schedule.unstopped started backoff ⟨turn, finish⟩ = .pauses next wake)
    (h : CutAt s schedule make started next (Trial.next ⟨turn, finish⟩ wake) stop done) :
    CutAt s schedule make started backoff turn stop (.after ⟨turn, finish⟩ done) := by
  cases h with
  | attempt hleads hnow hlate => exact .attempt (.paused hattempt hsequel hleads) hnow hlate
  | pause hleads hfinish hpauses hearly hwake =>
      exact .pause (.paused hattempt hsequel hleads) hfinish hpauses hearly hwake

theorem CutAt.runs (hforward : make.GoesForward)
    (h : CutAt s schedule make started backoff turn stop done) :
    ∃ trials, Runs s (schedule.stoppingAt stop) make started backoff turn trials done := by
  cases h with
  | @attempt later final front hleads hnow hlate =>
      have hruns : Runs s (schedule.stoppingAt stop) make started later final _ _ :=
        .ended (attemptAt_cut hnow hlate) (sequel_of_dropped _)
      exact ⟨_, (hleads.stoppingAt hforward hnow).runs hruns⟩
  | @pause later next final front finish wake hleads hfinish hpauses hearly hwake =>
      have hnow : final.now < stop :=
        Nat.lt_of_le_of_lt (finish?_time hforward hfinish).1 hearly
      have hruns : Runs s (schedule.stoppingAt stop) make started later final [⟨final, finish⟩]
          (.ofTrial ⟨final, finish⟩ (.failed .cancelled) stop) :=
        .ended (attemptAt_before hnow hfinish hearly) (sequel_cut hearly hpauses hwake)
      exact ⟨_, (hleads.stoppingAt hforward hnow).runs hruns⟩

/-- The signal falls on no turn and on no end of an attempt. -/
def Misses (s : RetrySettings) (schedule : Schedule) (make : Attempt σ α) (started : Instant)
    (backoff : Backoff) (turn : Turn σ) (stop : Instant) : Prop :=
  ∀ front later final, Leads s schedule.unstopped make started backoff turn front later final →
    final.now ≠ stop ∧ ∀ own, finish? s make final = some own → own.time ≠ stop

theorem Misses.tail {wake : Instant}
    (h : Misses s schedule make started backoff turn stop)
    (hattempt : attemptAt s schedule.unstopped make turn = .finished finish)
    (hsequel : sequel s schedule.unstopped started backoff ⟨turn, finish⟩ = .pauses next wake) :
    Misses s schedule make started next (Trial.next ⟨turn, finish⟩ wake) stop :=
  fun _ _ _ hleads => h _ _ _ (.paused hattempt hsequel hleads)

/-- A round that begins before the signal. The cycle ends with it, as it does without the signal or
because of it, or the round is over before the signal. -/
theorem round_cases (hnow : turn.now < stop)
    (hmisses : Misses s schedule make started backoff turn stop) :
    ∃ finish, attemptAt s (schedule.stoppingAt stop) make turn = .finished finish ∧
      ((∃ outcome time,
        sequel s (schedule.stoppingAt stop) started backoff ⟨turn, finish⟩ = .ends outcome time ∧
        ((time < stop ∧ Runs s schedule.unstopped make started backoff turn [⟨turn, finish⟩]
            (.ofTrial ⟨turn, finish⟩ outcome time)) ∨
          CutAt s schedule make started backoff turn stop
            (.ofTrial ⟨turn, finish⟩ outcome time))) ∨
      ∃ next wake,
        sequel s (schedule.stoppingAt stop) started backoff ⟨turn, finish⟩ = .pauses next wake ∧
        wake < stop ∧ attemptAt s schedule.unstopped make turn = .finished finish ∧
        sequel s schedule.unstopped started backoff ⟨turn, finish⟩ = .pauses next wake) := by
  by_cases hlate : ∀ own, finish? s make turn = some own → stop < own.time
  · exact ⟨_, attemptAt_cut hnow hlate,
      Or.inl ⟨_, _, sequel_of_dropped _, Or.inr (.attempt (.here _ _) hnow hlate)⟩⟩
  · obtain ⟨own, hown, hle⟩ : ∃ own, finish? s make turn = some own ∧ own.time ≤ stop := by
      simpa using hlate
    have hearly : own.time < stop := Nat.lt_of_le_of_ne hle ((hmisses _ _ _ (.here _ _)).2 own hown)
    have hmade : attemptAt s schedule.unstopped make turn = .finished own :=
      attemptAt_unstopped_iff.mpr hown
    refine ⟨own, attemptAt_before hnow hown hearly, ?_⟩
    cases hfree : sequel s schedule.unstopped started backoff ⟨turn, own⟩ with
    | ends outcome time =>
        have htime : time < stop :=
          Nat.lt_of_le_of_lt (Nat.le_of_eq (sequel_unstopped_ends hfree)) hearly
        exact Or.inl ⟨outcome, time, sequel_ends_before hearly hfree,
          Or.inl ⟨htime, .ended hmade hfree⟩⟩
    | pauses next wake =>
        rcases Nat.lt_trichotomy wake stop with hwake | hwake | hwake
        · exact Or.inr ⟨next, wake, sequel_before hearly hfree hwake, hwake, hmade, rfl⟩
        · -- Another attempt would begin just then.
          exact ((hmisses.tail hmade hfree _ _ _ (.here _ _)).1 hwake).elim
        · exact Or.inl ⟨_, _, sequel_cut hearly hfree hwake,
            Or.inr (.pause (.here _ _) hown hfree hearly hwake)⟩

/-- A cycle with a signal has the end that it has without, or is cut. -/
theorem Runs.of_stoppingAt (hnow : turn.now < stop)
    (hmisses : Misses s schedule make started backoff turn stop)
    (h : Runs s (schedule.stoppingAt stop) make started backoff turn trials done) :
    (done.time < stop ∧ Runs s schedule.unstopped make started backoff turn trials done) ∨
      CutAt s schedule make started backoff turn stop done := by
  induction h with
  | skipped hattempt =>
      obtain ⟨_, hmade, _⟩ := round_cases hnow hmisses
      cases hattempt.symm.trans hmade
  | ended hattempt hsequel =>
      obtain ⟨own, hmade, hround⟩ := round_cases hnow hmisses
      obtain rfl := Made.finished.inj (hattempt.symm.trans hmade)
      rcases hround with ⟨_, _, hends, hresult⟩ | ⟨_, _, hpauses, _⟩
      · cases hsequel.symm.trans hends
        exact hresult
      · cases hsequel.symm.trans hpauses
  | paused hattempt hsequel _ ih =>
      obtain ⟨own, hmade, hround⟩ := round_cases hnow hmisses
      obtain rfl := Made.finished.inj (hattempt.symm.trans hmade)
      rcases hround with ⟨_, _, hends, _⟩ | ⟨_, _, hpauses, hwake, hfree, hagain⟩
      · cases hsequel.symm.trans hends
      · cases hsequel.symm.trans hpauses
        rcases ih hwake (hmisses.tail hfree hagain) with ⟨hbefore, hruns⟩ | hcut
        · exact Or.inl ⟨hbefore, .paused hfree hagain hruns⟩
        · exact Or.inr (hcut.after hfree hagain)

/-- Fewer than `bound` attempts begin and end before an instant, each with the pause after it. -/
def Clears (s : RetrySettings) (schedule : Schedule) (make : Attempt σ α) (started : Instant)
    (backoff : Backoff) (turn : Turn σ) (stop : Instant) (bound : Nat) : Prop :=
  ∀ front later final, Leads s schedule.unstopped make started backoff turn front later final →
    final.now < stop → front.length < bound

theorem exists_runs_stoppingAt {bound : Nat} (hnow : turn.now < stop)
    (hmisses : Misses s schedule make started backoff turn stop)
    (hclears : Clears s schedule make started backoff turn stop bound) :
    ∃ trials done, Runs s (schedule.stoppingAt stop) make started backoff turn trials done := by
  induction bound generalizing backoff turn with
  | zero => exact (Nat.not_lt_zero _ (hclears _ _ _ (.here _ _) hnow)).elim
  | succ bound ih =>
      -- A round that is over before the signal takes one off the bound.
      obtain ⟨finish, hmade, hround⟩ := round_cases hnow hmisses
      rcases hround with ⟨_, _, hends, _⟩ | ⟨next, wake, hpauses, hwake, hfree, hagain⟩
      · exact ⟨_, _, .ended hmade hends⟩
      · have hbound : Clears s schedule make started next (Trial.next ⟨turn, finish⟩ wake) stop
            bound := fun _ _ _ hleads hfinal =>
          Nat.lt_of_succ_lt_succ (hclears _ _ _ (.paused hfree hagain hleads) hfinal)
        obtain ⟨trials, done, hruns⟩ := ih hwake (hmisses.tail hfree hagain) hbound
        exact ⟨_, _, .paused hmade hpauses hruns⟩

/-- The attempts that lead to a turn are the first ones of the sequence. -/
theorem Leads.turn? {start : Turn σ}
    (h : Leads s schedule.unstopped make started backoff turn front later final)
    (hbackoff : backoff = s.backoffAfter k) (hturn : turn? s make start k = some turn)
    (hallows : s.Allows k) :
    Cycle.turn? s make start (k + front.length) = some final ∧ s.Allows (k + front.length) := by
  induction h generalizing k with
  | here => exact ⟨hturn, hallows⟩
  | @paused backoff next later turn final finish wake trials hattempt hsequel _ ih =>
      obtain ⟨delay, hnext, hwake⟩ := sequel_pauses_next hsequel
      rw [hbackoff] at hnext
      obtain ⟨rfl, hafter, hmore⟩ := next?_backoffAfter_some hnext
      have htrial := trial?_of_attemptAt hturn hattempt
      have hrest := ih hafter (hwake ▸ turn?_of_trial? htrial) hmore
      rwa [List.length_cons, show k + (trials.length + 1) = k + 1 + trials.length by omega]

theorem clears_of_disabled (hdisabled : s.enabled = false) :
    Clears s schedule make started backoff turn stop 1 := by
  intro front later final hleads _
  cases hleads with
  | here => exact Nat.one_pos
  | paused _ hsequel _ =>
      rw [sequel_disabled hdisabled] at hsequel
      cases hsequel

theorem clears_of_maxAttempts (hpositive : 0 < s.maxAttempts) (start : Turn σ) (stop : Instant) :
    Clears s schedule make start.now (.ofSettings s) start stop s.maxAttempts := by
  intro front later final hleads _
  have hallows := (hleads.turn? (k := 0) s.backoffAfter_zero.symm rfl (Or.inr hpositive)).2
  rw [Nat.zero_add] at hallows
  exact hallows.resolve_left (Nat.ne_of_gt hpositive)

theorem Leads.length_le_of_delays (hforward : make.GoesForward)
    (h : Leads s schedule.unstopped make started backoff turn front later final)
    (hbackoff : backoff = s.backoffAfter k) (hdelays : ∀ k, 0 < (s.delay k).ticks) :
    turn.now + front.length ≤ final.now := by
  induction h generalizing k with
  | here => exact Nat.le_refl _
  | @paused backoff next later turn final finish wake trials hattempt hsequel _ ih =>
      obtain ⟨delay, hnext, rfl⟩ := sequel_pauses_next hsequel
      rw [hbackoff] at hnext
      obtain ⟨rfl, hafter, _⟩ := next?_backoffAfter_some hnext
      have hnow := (attemptAt_time hforward hattempt).1
      have hdelay := hdelays k
      have hrest := ih hafter
      simp only [Trial.next, Instant.after, List.length_cons] at hrest ⊢
      unfold Instant at *
      omega

theorem clears_of_delays (hforward : make.GoesForward) (hdelays : ∀ k, 0 < (s.delay k).ticks)
    (turn : Turn σ) (stop : Instant) :
    Clears s schedule make started (.ofSettings s) turn stop stop := by
  intro front later final hleads hfinal
  have hlength := hleads.length_le_of_delays hforward s.backoffAfter_zero.symm hdelays
  exact Nat.lt_of_le_of_lt (Nat.le_trans (Nat.le_add_left _ _) hlength) hfinal

private theorem starts_before_of_leads (hforward : make.GoesForward)
    (h : Leads s schedule.unstopped make started backoff turn front later final)
    (hnow : final.now < stop) {last : Window} (hlast : last.start < stop) :
    ∀ window ∈ front.map Trial.window ++ [last], window.start < stop := by
  intro window hwindow
  rcases List.mem_append.mp hwindow with hfront | hend
  · obtain ⟨trial, htrial, rfl⟩ := List.mem_map.mp hfront
    obtain ⟨hstart, hfinish⟩ := (h.now_le hforward).2 trial htrial
    exact Nat.lt_of_le_of_lt (Nat.le_trans hstart hfinish) hnow
  · obtain rfl := List.mem_singleton.mp hend
    exact hlast

theorem CutAt.starts_before (hforward : make.GoesForward)
    (h : CutAt s schedule make started backoff turn stop done) :
    ∀ window ∈ done.windows, window.start < stop := by
  cases h with
  | attempt hleads hnow _ => exact starts_before_of_leads hforward hleads hnow hnow
  | pause hleads hfinish _ hearly _ =>
      have hnow := Nat.lt_of_le_of_lt (finish?_time hforward hfinish).1 hearly
      exact starts_before_of_leads hforward hleads hnow hnow

theorem returns_stoppingAt_iff {start : Turn σ} (hforward : make.GoesForward)
    (hnow : start.now < stop)
    (hmisses : Misses s schedule make start.now (.ofSettings s) start stop) :
    Returns s (schedule.stoppingAt stop) make start done ↔
      (done.time < stop ∧ Returns s schedule.unstopped make start done) ∨
        CutAt s schedule make start.now (.ofSettings s) start stop done := by
  constructor
  · intro h
    obtain ⟨trials, hruns⟩ := returns_iff.mp h
    rcases hruns.of_stoppingAt hnow hmisses with ⟨hbefore, hfree⟩ | hcut
    · exact Or.inl ⟨hbefore, returns_iff.mpr ⟨trials, hfree⟩⟩
    · exact Or.inr hcut
  · rintro (⟨hbefore, h⟩ | hcut)
    · obtain ⟨trials, hfree⟩ := returns_iff.mp h
      exact returns_iff.mpr ⟨trials, hfree.stoppingAt hforward hbefore⟩
    · exact returns_iff.mpr (hcut.runs hforward)

theorem CutAt.ends (h : CutAt s schedule make started backoff turn stop done) :
    done.time = stop ∧ done.outcome = .failed .cancelled := by
  cases h <;> exact ⟨rfl, rfl⟩

/-- No attempt begins at the signal or later, and none lasts longer. -/
theorem Runs.windows_stoppingAt (hforward : make.GoesForward) (hnow : turn.now < stop)
    (hmisses : Misses s schedule make started backoff turn stop)
    (h : Runs s (schedule.stoppingAt stop) make started backoff turn trials done) :
    ∀ window ∈ done.windows, window.start < stop ∧ window.stop ≤ stop := by
  intro window hwindow
  have hend := (h.stops_by_end hforward).2 window hwindow
  rcases h.of_stoppingAt hnow hmisses with ⟨hbefore, _⟩ | hcut
  · have hstop := Nat.lt_of_le_of_lt hend hbefore
    have hstart := (h.window_bounds hforward window hwindow).1
    exact ⟨Nat.lt_of_le_of_lt hstart hstop, Nat.le_of_lt hstop⟩
  · exact ⟨hcut.starts_before hforward window hwindow, hcut.ends.1 ▸ hend⟩

/-- The attempts of a cycle come one after the other, each within its limit and each when the pause
before it is over. A signal that falls on none of these instants ends the cycle then and there, or
the cycle has ended before and the signal makes no difference. It is the one or the other exactly if
the clock gets so far, and it does if there is a limit to the attempts or if each pause takes
time. -/
theorem ends_at_signal_or_as_without (s : RetrySettings) (schedule : Schedule)
    (make : Attempt σ α) (start : Turn σ) (stop : Instant) (hforward : make.GoesForward)
    (hlater : start.now ≤ stop)
    (hmisses : Misses s schedule make start.now (.ofSettings s) start stop) :
    (∀ done, Returns s (schedule.stoppingAt stop) make start done →
      Spaced s start.now done.windows ∧
        ∀ window ∈ done.windows, window.start < stop ∧ window.stop ≤ stop) ∧
    (∀ done, Returns s (schedule.stoppingAt stop) make start done ↔
      (done.time < stop ∧ Returns s schedule.unstopped make start done) ∨
        CutAt s schedule make start.now (.ofSettings s) start stop done) ∧
    (∀ done, CutAt s schedule make start.now (.ofSettings s) start stop done →
      done.time = stop ∧ done.outcome = .failed .cancelled) ∧
    ((∃ done, Returns s (schedule.stoppingAt stop) make start done) ↔
      ∃ bound, Clears s schedule make start.now (.ofSettings s) start stop bound) ∧
    (s.enabled = false ∨ 0 < s.maxAttempts ∨ (∀ k, 0 < (s.delay k).ticks) →
      ∃ done, Returns s (schedule.stoppingAt stop) make start done) := by
  have hnow : start.now < stop :=
    Nat.lt_of_le_of_ne hlater (hmisses _ _ _ (.here _ _)).1
  have hreturns {bound : Nat}
      (hclears : Clears s schedule make start.now (.ofSettings s) start stop bound) :
      ∃ done, Returns s (schedule.stoppingAt stop) make start done := by
    obtain ⟨trials, done, hruns⟩ := exists_runs_stoppingAt hnow hmisses hclears
    exact ⟨done, returns_iff.mpr ⟨trials, hruns⟩⟩
  refine ⟨?_, fun done => returns_stoppingAt_iff hforward hnow hmisses, fun _ hcut => hcut.ends,
    ?_, ?_⟩
  · intro done hdone
    obtain ⟨trials, hruns⟩ := returns_iff.mp hdone
    exact ⟨hruns.spaced hforward, hruns.windows_stoppingAt hforward hnow hmisses⟩
  · constructor
    · rintro ⟨done, hdone⟩
      obtain ⟨trials, hruns⟩ := returns_iff.mp hdone
      refine ⟨trials.length + 1, ?_⟩
      intro front later final hleads hfinal
      exact Nat.lt_succ_of_le ((hleads.stoppingAt hforward hfinal).length_le hruns)
    · rintro ⟨bound, hclears⟩
      exact hreturns hclears
  · rintro (hdisabled | hpositive | hdelays)
    · exact hreturns (clears_of_disabled hdisabled)
    · exact hreturns (clears_of_maxAttempts hpositive start stop)
    · exact hreturns (clears_of_delays hforward hdelays start stop)

/-- The instant falls into the second attempt. -/
theorem Sample.misses : Misses Sample.settings Sample.still (Scripted.numbered Sample.script)
    Sample.outset.now (.ofSettings Sample.settings) Sample.outset 145 := by
  have hturns : ∀ k < 3, (turn? Sample.settings (Scripted.numbered Sample.script) Sample.outset
      k).map Turn.now ≠ some 145 := by
    decide +kernel
  have htrials : ∀ k < 3, (trial? Sample.settings (Scripted.numbered Sample.script) Sample.outset
      k).map (fun trial => trial.finish.time) ≠ some 145 := by
    decide +kernel
  intro front later final hleads
  have hallows : Sample.settings.Allows 0 := Or.inr (by decide)
  obtain ⟨hturn, hcount⟩ := hleads.turn? (k := 0) rfl rfl hallows
  rw [Nat.zero_add] at hturn hcount
  have hcount : front.length < 3 := hcount.resolve_left (by decide)
  refine ⟨fun hnow => hturns _ hcount (by simp [hturn, hnow]), ?_⟩
  intro own hown htime
  have htrial : trial? Sample.settings (Scripted.numbered Sample.script) Sample.outset
      front.length = some ⟨final, own⟩ :=
    trial?_eq_some_iff.mpr ⟨hturn, hown⟩
  exact htrials _ hcount (by simp [htrial, htime])

theorem ends_at_signal_or_as_without_second :
    Misses Sample.settings Sample.still (Scripted.numbered Sample.script) Sample.outset.now
        (.ofSettings Sample.settings) Sample.outset 145 ∧
      ∃ done, Returns Sample.settings (Sample.still.stoppingAt 145)
          (Scripted.numbered Sample.script) Sample.outset done ∧
        done.windows = [⟨0, 40, true⟩, ⟨140, 145, true⟩] ∧ done.outcome = .failed .cancelled := by
  obtain ⟨_, hreturns, hcut, _⟩ := ends_at_signal_or_as_without Sample.settings Sample.still
    (Scripted.numbered Sample.script) Sample.outset 145 (Scripted.numbered_goesForward _)
    (by decide) Sample.misses
  have hrun : (run Sample.settings (Sample.still.stoppingAt 145) (Scripted.numbered Sample.script)
      4 0 0 0).map (fun done => (done.time, done.windows)) =
        some (145, [⟨0, 40, true⟩, ⟨140, 145, true⟩]) := by
    decide +kernel
  obtain ⟨done, hdone, hshown⟩ := Option.map_eq_some_iff.mp hrun
  obtain ⟨htime, hwindows⟩ := Prod.mk.inj hshown
  have hreturned : Returns Sample.settings (Sample.still.stoppingAt 145)
      (Scripted.numbered Sample.script) Sample.outset done := ⟨4, hdone⟩
  refine ⟨Sample.misses, done, hreturned, hwindows, ?_⟩
  rcases (hreturns done).mp hreturned with ⟨hbefore, _⟩ | hends
  · exact (Nat.ne_of_lt hbefore htime).elim
  · exact (hcut done hends).2

end Cycle

end WorkloadIdentity
