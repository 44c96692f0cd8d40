import WorkloadIdentity.Proofs.Retry.Undisturbed

/-!
The windows of a cycle's attempts, whatever the schedule. An attempt does not outlast its limit, and
the next one begins when the pause after it is over, so the windows come one after the other.
-/

namespace WorkloadIdentity

theorem Instant.le_after (start : Instant) (d : Duration) : start ≤ start.after d :=
  Nat.le_add_right _ _

namespace Cycle

variable {σ α : Type} {s : RetrySettings} {schedule : Schedule} {make : Attempt σ α}
  {started : Instant} {backoff next : Backoff} {turn : Turn σ} {trial : Trial σ α}
  {trials : List (Trial σ α)} {done : CycleEnd σ α} {finish : Finish σ α} {k : Nat}

/-! ### One attempt -/

/-- An attempt comes to its own end in time, or is dropped at its limit. -/
theorem finish?_cases (h : finish? s make turn = some finish) :
    ((make turn.now turn.world).finish = some finish ∧
        ∀ limit, s.attemptTimeout = some limit → finish.time ≤ turn.now.after limit) ∨
      ∃ limit, s.attemptTimeout = some limit ∧
        finish = (make turn.now turn.world).drop (turn.now.after limit) := by
  unfold finish? Course.within at h
  cases hlimit : s.attemptTimeout with
  | none =>
      rw [hlimit] at h
      exact Or.inl ⟨h, by simp⟩
  | some limit =>
      simp only [hlimit] at h
      cases hown : (make turn.now turn.world).finish with
      | none =>
          simp only [hown, Bool.false_eq_true, if_false, Option.some.injEq] at h
          exact Or.inr ⟨limit, rfl, h.symm⟩
      | some own =>
          by_cases hintime : own.time ≤ turn.now.after limit
          · simp only [hown, hintime, decide_true, if_true] at h
            cases h
            refine Or.inl ⟨rfl, ?_⟩
            intro other hother
            cases hother
            exact hintime
          · simp only [hown, hintime, decide_false, Bool.false_eq_true, if_false,
              Option.some.injEq] at h
            exact Or.inr ⟨limit, rfl, h.symm⟩

theorem finish?_time (hforward : make.GoesForward) (h : finish? s make turn = some finish) :
    turn.now ≤ finish.time ∧
      ∀ limit, s.attemptTimeout = some limit → finish.time ≤ turn.now.after limit := by
  rcases finish?_cases h with ⟨hown, hintime⟩ | ⟨limit, hlimit, rfl⟩
  · exact ⟨hforward _ _ _ hown, hintime⟩
  · refine ⟨Instant.le_after _ _, ?_⟩
    intro other hother
    cases hlimit.symm.trans hother
    exact Nat.le_refl _

theorem finish?_ne_none {limit : Duration} (hlimit : s.attemptTimeout = some limit) :
    finish? s make turn ≠ none := by
  unfold finish? Course.within
  rw [hlimit]
  cases hown : (make turn.now turn.world).finish with
  | none => simp
  | some own => by_cases hintime : own.time ≤ turn.now.after limit <;> simp [hown, hintime]

theorem interrupts?_eq_some {now wake seen : Instant} {wakeFirst : Bool}
    (h : schedule.interrupts? now wake wakeFirst = some seen) : now ≤ seen ∧ seen ≤ wake := by
  unfold Schedule.interrupts? at h
  cases hstop : schedule.stopAt with
  | none => simp [hstop] at h
  | some stop =>
      simp only [hstop, Option.ite_none_left_eq_some, Option.some.injEq, Bool.or_eq_true,
        decide_eq_true_eq, not_or] at h
      obtain ⟨⟨hwake, _⟩, rfl⟩ := h
      exact ⟨Nat.le_max_left _ _, Nat.le_of_not_lt hwake⟩

@[simp] theorem within_drop (c : Course σ α) (limit : Option Duration) (start time : Instant) :
    (c.within limit start).drop time = c.drop time := by
  unfold Course.within
  cases limit with
  | none => rfl
  | some limit =>
      dsimp only
      split
      · split <;> rfl
      · rfl

/-- An attempt ends by itself, or it is dropped when the signal is seen. -/
theorem attemptAt_finished (h : attemptAt s schedule make turn = .finished finish) :
    finish? s make turn = some finish ∨
      ∃ seen, finish = (make turn.now turn.world).drop seen ∧ turn.now ≤ seen ∧
        ∀ own, finish? s make turn = some own → seen ≤ own.time := by
  unfold attemptAt attempt Course.under at h
  unfold finish?
  split at h
  · cases h
  · cases hown : ((make turn.now turn.world).within s.attemptTimeout turn.now).finish with
    | none =>
        cases hstop : schedule.stopAt with
        | none => simp [hown, hstop] at h
        | some stop =>
            simp only [hown, hstop, Option.map_some, within_drop, Made.finished.injEq] at h
            exact Or.inr ⟨max turn.now stop, h.symm, Nat.le_max_left _ _, by simp⟩
    | some own =>
        simp only [hown] at h
        cases hseen : schedule.interrupts? turn.now own.time
            (schedule.attemptFirst turn.number) with
        | none =>
            simp only [hseen, Made.finished.injEq] at h
            exact Or.inl (congrArg some h)
        | some seen =>
            simp only [hseen, within_drop, Made.finished.injEq] at h
            obtain ⟨hnow, hend⟩ := interrupts?_eq_some hseen
            refine Or.inr ⟨seen, h.symm, hnow, ?_⟩
            intro other hother
            cases hother
            exact hend

theorem attemptAt_time (hforward : make.GoesForward)
    (h : attemptAt s schedule make turn = .finished finish) :
    turn.now ≤ finish.time ∧
      ∀ limit, s.attemptTimeout = some limit → finish.time ≤ turn.now.after limit := by
  rcases attemptAt_finished h with hown | ⟨seen, rfl, hnow, hearly⟩
  · exact finish?_time hforward hown
  · refine ⟨hnow, ?_⟩
    intro limit hlimit
    have hends : finish? s make turn ≠ none := finish?_ne_none hlimit
    obtain ⟨own, hown⟩ := Option.ne_none_iff_exists'.mp hends
    exact Nat.le_trans (hearly own hown) ((finish?_time hforward hown).2 limit hlimit)

/-! ### The pause after it -/

theorem decide_pause {elapsed delay : Duration} {failure : Failure}
    (h : s.decide elapsed backoff failure = .pause delay next) :
    backoff.next? = some (delay, next) := by
  unfold RetrySettings.decide at h
  split at h
  · cases hnext : backoff.next? with
    | none => simp [hnext] at h
    | some given =>
        obtain ⟨pause, rest⟩ := given
        simp only [hnext] at h
        split at h
        · cases h
          rfl
        · split at h
          · cases h
          · split at h
            · cases h
            · cases h
              rfl
  · cases h

theorem sequel_pauses_next {wake : Instant}
    (h : sequel s schedule started backoff trial = .pauses next wake) :
    ∃ delay, backoff.next? = some (delay, next) ∧ wake = trial.finish.time.after delay := by
  obtain ⟨_, _, delay, _, hdecide, hwake⟩ := sequel_pauses h
  exact ⟨delay, decide_pause hdecide, hwake⟩

theorem sequel_pauses_le {wake : Instant}
    (h : sequel s schedule started backoff trial = .pauses next wake) :
    trial.finish.time ≤ wake := by
  obtain ⟨delay, _, rfl⟩ := sequel_pauses_next h
  exact Instant.le_after _ _

theorem sequel_ends_le {outcome : Outcome α} {time : Instant}
    (h : sequel s schedule started backoff trial = .ends outcome time) :
    trial.finish.time ≤ time := by
  rcases (sequel_ends h).2 with rfl | ⟨_, _, hseen⟩
  · exact Nat.le_refl _
  · exact (interrupts?_eq_some hseen).1

theorem next?_backoffAfter_some {delay : Duration}
    (h : (s.backoffAfter k).next? = some (delay, next)) :
    delay = s.delay k ∧ next = s.backoffAfter (k + 1) ∧ s.Allows (k + 1) := by
  by_cases hmore : s.Allows (k + 1)
  · rw [RetrySettings.next?_backoffAfter hmore] at h
    cases h
    exact ⟨rfl, rfl, hmore⟩
  · unfold RetrySettings.Allows at hmore
    rw [RetrySettings.next?_backoffAfter_last (by omega) (by omega)] at h
    cases h

/-! ### All windows -/

/-- The windows of a cycle that starts at an instant, in their order. -/
structure Spaced (s : RetrySettings) (start : Instant) (windows : List Window) : Prop where
  first : ∀ window, windows[0]? = some window → window.start = start
  forward : ∀ window ∈ windows, window.start ≤ window.stop
  short : ∀ window ∈ windows, ∀ limit, s.attemptTimeout = some limit →
    window.stop ≤ window.start.after limit
  /-- A pause begins with the end of an attempt, and the next attempt with the end of the pause. -/
  pauses : ∀ i earlier later, windows[i]? = some earlier → windows[i + 1]? = some later →
    later.start = earlier.stop.after (s.delay i)
  disjoint : windows.Pairwise fun earlier later => earlier.stop ≤ later.start

theorem Runs.first_window (h : Runs s schedule make started backoff turn trials done)
    {window : Window} (hwindow : done.windows[0]? = some window) : window.start = turn.now := by
  cases h with
  | skipped _ => cases hwindow
  | ended _ _ =>
      cases hwindow
      rfl
  | paused _ _ _ =>
      cases hwindow
      rfl

theorem Runs.window_bounds (hforward : make.GoesForward)
    (h : Runs s schedule make started backoff turn trials done) :
    ∀ window ∈ done.windows, window.start ≤ window.stop ∧
      ∀ limit, s.attemptTimeout = some limit → window.stop ≤ window.start.after limit := by
  induction h with
  | skipped _ => simp [CycleEnd.ofSkipped]
  | ended hattempt _ =>
      intro window hwindow
      obtain rfl := List.mem_singleton.mp hwindow
      exact attemptAt_time hforward hattempt
  | paused hattempt _ _ ih =>
      intro window hwindow
      rcases List.mem_cons.mp hwindow with rfl | hwindow
      · exact attemptAt_time hforward hattempt
      · exact ih window hwindow

theorem Runs.pause_between (h : Runs s schedule make started backoff turn trials done)
    (hbackoff : backoff = s.backoffAfter k) {i : Nat} {earlier later : Window}
    (hearlier : done.windows[i]? = some earlier) (hlater : done.windows[i + 1]? = some later) :
    later.start = earlier.stop.after (s.delay (k + i)) := by
  induction h generalizing k i with
  | skipped _ => simp [CycleEnd.ofSkipped] at hearlier
  | ended _ _ => simp [CycleEnd.ofTrial] at hlater
  | paused _ hsequel hrest ih =>
      obtain ⟨delay, hnext, hwake⟩ := sequel_pauses_next hsequel
      rw [hbackoff] at hnext
      obtain ⟨rfl, hafter, _⟩ := next?_backoffAfter_some hnext
      cases i with
      | zero =>
          cases hearlier
          exact (hrest.first_window hlater).trans hwake
      | succ i =>
          rw [show k + (i + 1) = k + 1 + i by omega]
          exact ih hafter hearlier hlater

theorem Runs.stops_by_end (h : Runs s schedule make started backoff turn trials done)
    (hforward : make.GoesForward) : turn.now ≤ done.time ∧
      ∀ window ∈ done.windows, window.stop ≤ done.time := by
  induction h with
  | skipped _ => simp [CycleEnd.ofSkipped]
  | ended hattempt hsequel =>
      have hend := sequel_ends_le hsequel
      refine ⟨Nat.le_trans (attemptAt_time hforward hattempt).1 hend, ?_⟩
      intro window hwindow
      obtain rfl := List.mem_singleton.mp hwindow
      exact hend
  | @paused backoff next turn finish wake trials done hattempt hsequel _ ih =>
      have hfinish : finish.time ≤ done.time := Nat.le_trans (sequel_pauses_le hsequel) ih.1
      refine ⟨Nat.le_trans (attemptAt_time hforward hattempt).1 hfinish, ?_⟩
      intro window hwindow
      rcases List.mem_cons.mp hwindow with rfl | hwindow
      · exact hfinish
      · exact ih.2 window hwindow

theorem Runs.starts_after (hforward : make.GoesForward)
    (h : Runs s schedule make started backoff turn trials done) :
    ∀ window ∈ done.windows, turn.now ≤ window.start := by
  induction h with
  | skipped _ => simp [CycleEnd.ofSkipped]
  | ended _ _ =>
      intro window hwindow
      obtain rfl := List.mem_singleton.mp hwindow
      exact Nat.le_refl _
  | @paused backoff next turn finish wake trials done hattempt hsequel _ ih =>
      intro window hwindow
      rcases List.mem_cons.mp hwindow with rfl | hwindow
      · exact Nat.le_refl _
      · calc turn.now ≤ finish.time := (attemptAt_time hforward hattempt).1
          _ ≤ wake := sequel_pauses_le hsequel
          _ ≤ window.start := ih window hwindow

theorem Runs.windows_disjoint (hforward : make.GoesForward)
    (h : Runs s schedule make started backoff turn trials done) :
    done.windows.Pairwise fun earlier later => earlier.stop ≤ later.start := by
  induction h with
  | skipped _ => exact .nil
  | ended _ _ => exact List.pairwise_singleton _ _
  | paused _ hsequel hrest ih =>
      refine List.pairwise_cons.mpr ⟨?_, ih⟩
      intro later hlater
      exact Nat.le_trans (sequel_pauses_le hsequel) (hrest.starts_after hforward later hlater)

theorem Runs.spaced (hforward : make.GoesForward)
    (h : Runs s schedule make started (.ofSettings s) turn trials done) :
    Spaced s turn.now done.windows where
  first _ hwindow := h.first_window hwindow
  forward window hwindow := (h.window_bounds hforward window hwindow).1
  short window hwindow := (h.window_bounds hforward window hwindow).2
  pauses i earlier later hearlier hlater := by
    have hpause := h.pause_between s.backoffAfter_zero.symm hearlier hlater
    rwa [Nat.zero_add] at hpause
  disjoint := h.windows_disjoint hforward

end Cycle

end WorkloadIdentity
