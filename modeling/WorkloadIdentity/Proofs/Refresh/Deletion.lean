import WorkloadIdentity.Proofs.Refresh.Desk

/-!
When a run deletes the token. It does so as the last thing, and exactly if it fails; it fails
exactly if one of its cycles does, with what that cycle failed with. A run that ends well leaves the
token of its last success, and ends for one of two reasons: the signal, or that one success was all
that was asked for.
-/

namespace WorkloadIdentity.Refresh

variable {σ : Type} {s : RefreshSettings} {schedule : Schedule} {make : Attempt σ Unit}
  {delete : σ → σ} {turn final : Turn σ} {lap : Lap σ} {front laps : List (Lap σ)}
  {failure : Failure} {time : Instant}

/-! ### The end of a run -/

theorem interrupts?_stopped {now wake seen : Instant} {wakeFirst : Bool}
    (h : schedule.interrupts? now wake wakeFirst = some seen) : schedule.stopped seen = true := by
  unfold Schedule.interrupts? at h
  unfold Schedule.stopped
  cases hstop : schedule.stopAt with
  | none => simp [hstop] at h
  | some stop =>
      simp only [hstop, Option.ite_none_left_eq_some, Option.some.injEq] at h
      obtain ⟨_, rfl⟩ := h
      exact decide_eq_true (Nat.le_max_right _ _)

/-- What a cycle leads to: the run ends with its failure, or ends well, or pauses. -/
theorem sequel_cases (s : RefreshSettings) (schedule : Schedule) (lap : Lap σ) :
    (∃ failure, lap.done.outcome = .failed failure ∧
      ¬(failure = .cancelled ∧ schedule.stopped lap.done.time = true) ∧
      sequel s schedule lap = .ends (.failed failure) lap.done.time) ∨
    (lap.done.outcome = .overflow ∧ sequel s schedule lap = .ends .overflow lap.done.time) ∨
    (∃ time, (schedule.stopped time = true ∨ s.once = true ∧ lap.done.outcome = .ok ()) ∧
      sequel s schedule lap = .ends (.ok ()) time) ∨
    (s.once = false ∧ ∃ wake, sequel s schedule lap = .pauses wake) := by
  unfold sequel
  cases houtcome : lap.done.outcome with
  | overflow => exact Or.inr (Or.inl ⟨rfl, rfl⟩)
  | failed failure =>
      by_cases hstopped : failure = .cancelled ∧ schedule.stopped lap.done.time = true
      · refine Or.inr (Or.inr (Or.inl ⟨_, Or.inl hstopped.2, ?_⟩))
        simp only [hstopped, and_self, if_true]
      · refine Or.inl ⟨failure, rfl, hstopped, ?_⟩
        simp only [hstopped, if_false]
  | ok value =>
      cases honce : s.once with
      | true => exact Or.inr (Or.inr (Or.inl ⟨_, Or.inr ⟨rfl, rfl⟩, rfl⟩))
      | false =>
          simp only [Bool.false_eq_true, if_false]
          cases hseen : schedule.interrupts? lap.done.time (lap.done.time.after s.interval)
              (schedule.pauseFirst (lap.turn.number + lap.done.windows.length - 1)) with
          | some seen =>
              exact Or.inr (Or.inr (Or.inl ⟨seen, Or.inl (interrupts?_stopped hseen), rfl⟩))
          | none => exact Or.inr (Or.inr (Or.inr ⟨trivial, _, rfl⟩))

theorem sequel_ends_failed (h : sequel s schedule lap = .ends (.failed failure) time) :
    lap.done.outcome = .failed failure ∧
      ¬(failure = .cancelled ∧ schedule.stopped lap.done.time = true) := by
  rcases sequel_cases s schedule lap with ⟨own, houtcome, hown, hends⟩ | ⟨_, hends⟩ |
    ⟨_, _, hends⟩ | ⟨_, _, hends⟩
  · cases h.symm.trans hends
    exact ⟨houtcome, hown⟩
  all_goals cases h.symm.trans hends

theorem sequel_ends_ok (h : sequel s schedule lap = .ends (.ok ()) time) :
    schedule.stopped time = true ∨ s.once = true ∧ lap.done.outcome = .ok () := by
  rcases sequel_cases s schedule lap with ⟨_, _, _, hends⟩ | ⟨_, hends⟩ |
    ⟨own, hreason, hends⟩ | ⟨_, _, hends⟩
  case inr.inr.inl =>
    cases h.symm.trans hends
    exact hreason
  all_goals cases h.symm.trans hends

/-- One success is all that is asked for, so there is no second cycle. -/
theorem Leads.eq_nil_of_once (h : Leads s schedule make turn front final) (honce : s.once = true) :
    front = [] := by
  cases h with
  | here => rfl
  | @paused lap _ _ _ _ hpauses _ =>
      rcases sequel_cases s schedule lap with ⟨_, _, _, hends⟩ | ⟨_, hends⟩ | ⟨_, _, hends⟩ |
        ⟨hagain, _⟩
      case inr.inr.inr => simp [honce] at hagain
      all_goals cases hpauses.symm.trans hends

theorem failed_iff :
    (∃ done, Returns s schedule make delete turn done ∧ done.outcome = .failed failure) ↔
      ∃ cycles cycle done, Leads s schedule make turn cycles cycle ∧
        Cycle.Returns s.retry schedule make cycle done ∧ done.outcome = .failed failure ∧
        ¬(failure = .cancelled ∧ schedule.stopped done.time = true) := by
  constructor
  · rintro ⟨done, hdone, houtcome⟩
    obtain ⟨laps, hruns⟩ := returns_iff.mp hdone
    obtain ⟨front, lap, _, hleads, hmade, hsequel, _⟩ := hruns.last
    rw [houtcome] at hsequel
    exact ⟨front, lap.turn, lap.done, hleads, Cycle.returns_iff.mpr ⟨_, hmade⟩,
      sequel_ends_failed hsequel⟩
  · rintro ⟨cycles, cycle, done, hleads, hreturns, houtcome, hown⟩
    obtain ⟨trials, hruns⟩ := Cycle.returns_iff.mp hreturns
    have hmade : Made s schedule make ⟨cycle, trials, done⟩ := hruns
    have hlast : Runs s schedule make delete cycle [⟨cycle, trials, done⟩] _ :=
      .ended hmade (sequel_of_failed houtcome hown)
    exact ⟨_, returns_iff.mpr ⟨_, hleads.runs hlast⟩, rfl⟩

/-- A run ends well because of the signal, or with its one success. -/
theorem Runs.reason {done : RefreshEnd σ} (h : Runs s schedule make delete turn laps done)
    (hok : done.outcome = .ok ()) :
    schedule.stopped done.time = true ∨
      s.once = true ∧ (laps.flatMap Lap.trials).countP Trial.succeeded = 1 := by
  obtain ⟨front, lap, rfl, hleads, hmade, hsequel, _⟩ := h.last
  rw [hok] at hsequel
  rcases sequel_ends_ok hsequel with hstopped | ⟨honce, hsuccess⟩
  · exact Or.inl hstopped
  · have hcount : lap.trials.countP Trial.succeeded = 1 := by
      rw [Cycle.Runs.count_succeeded hmade, hsuccess]
      rfl
    rw [hleads.eq_nil_of_once honce]
    exact Or.inr ⟨honce, by simpa using hcount⟩

/-! ### The run and the store -/

section Store

variable {script : Nat → Scripted} {start : Turn Desk} {done : RefreshEnd Desk}
  {laps : List (Lap Desk)}

theorem Runs.kept (h : Runs s schedule (Desk.attempt script) Desk.delete start laps done)
    (hsound : start.world.files.Sound) :
    ∃ left, Desk.Kept script start.world (laps.flatMap Lap.trials) left ∧
      done.world = leave Desk.delete done.outcome left := by
  obtain ⟨front, lap, rfl, hleads, hmade, _, hworld⟩ := h.last
  have hfront := hleads.keeps (fun _ _ _ hkept hattempt => hkept.step hattempt)
    (Desk.kept_start hsound)
  have hlap := Cycle.Runs.keeps (fun _ _ _ hkept hattempt => hkept.step hattempt) hmade hfront
  refine ⟨lap.done.world, ?_, hworld⟩
  simpa using hlap

theorem Runs.kept_of_ok (h : Runs s schedule (Desk.attempt script) Desk.delete start laps done)
    (hsound : start.world.files.Sound) (hok : done.outcome = .ok ()) :
    Desk.Kept script start.world (laps.flatMap Lap.trials) done.world := by
  obtain ⟨left, hkept, hworld⟩ := h.kept hsound
  rw [hworld, hok]
  exact hkept

theorem Runs.deleted (h : Runs s schedule (Desk.attempt script) Desk.delete start laps done)
    (hsound : start.world.files.Sound) (hfailed : done.outcome = .failed failure) :
    ∃ left, Desk.Kept script start.world (laps.flatMap Lap.trials) left ∧
      done.world = left.delete := by
  obtain ⟨left, hkept, hworld⟩ := h.kept hsound
  refine ⟨left, hkept, ?_⟩
  rw [hworld, hfailed]
  rfl

end Store

/-- A run fails exactly if one of its cycles fails, other than by being cancelled after the signal,
and with the same failure, whatever becomes of the deletion. Then the last call to the store is the
only one that deletes, and at a usable path there is nothing left to read. A run that ends well
deletes nothing and leaves the token of the last successful attempt, or what was there before; it
has seen the signal, or it was asked for one success and has had just one. -/
theorem deletes_last_if_failed (s : RefreshSettings) (schedule : Schedule)
    (script : Nat → Scripted) (start : Turn Desk) (hsound : start.world.files.Sound) :
    (∀ failure,
      (∃ done, Returns s schedule (Desk.attempt script) Desk.delete start done ∧
        done.outcome = .failed failure) ↔
      ∃ cycles cycle done, Leads s schedule (Desk.attempt script) start cycles cycle ∧
        Cycle.Returns s.retry schedule (Desk.attempt script) cycle done ∧
        done.outcome = .failed failure ∧
        ¬(failure = .cancelled ∧ schedule.stopped done.time = true)) ∧
    (∀ done failure, Returns s schedule (Desk.attempt script) Desk.delete start done →
      done.outcome = .failed failure →
      (∃ written result, done.world.calls = start.world.calls ++ written ++ [(.delete, result)] ∧
        ∀ call ∈ written, call.1 ≠ .delete) ∧
      ((∀ path, start.world.store.path? = some path → done.world.files.Usable path ∨
          start.world.files.Usable path ∧ ".." ∉ Path.names path) →
        done.world.token = .error .noData)) ∧
    (∀ done, Returns s schedule (Desk.attempt script) Desk.delete start done →
      done.outcome = .ok () →
      ∃ laps, Runs s schedule (Desk.attempt script) Desk.delete start laps done ∧
        (∃ written, done.world.calls = start.world.calls ++ written ∧
          ∀ call ∈ written, call.1 ≠ .delete) ∧
        Desk.Shows script start.world (laps.flatMap Lap.trials) done.world ∧
        ((∀ path, start.world.store.path? = some path →
            start.world.files.Usable path ∧ ".." ∉ Path.names path) →
          Desk.lastSuccess? (laps.flatMap Lap.trials) = none →
          done.world.token = start.world.token) ∧
        (schedule.stopped done.time = true ∨
          s.once = true ∧ (laps.flatMap Lap.trials).countP Trial.succeeded = 1)) := by
  refine ⟨fun failure => failed_iff, ?_, ?_⟩
  · intro done failure hdone hfailed
    obtain ⟨laps, hruns⟩ := returns_iff.mp hdone
    obtain ⟨left, hkept, hdeleted⟩ := hruns.deleted hsound hfailed
    obtain ⟨written, hcalls, hwritten⟩ := hkept.calls
    rw [hdeleted]
    refine ⟨⟨written, (left.store.delete left.files).1, ?_, hwritten⟩, ?_⟩
    · rw [Desk.delete_calls, hcalls]
    · intro husable
      apply Desk.delete_token
      intro path hpath
      rw [hkept.path] at hpath
      rcases husable path hpath with hafter | ⟨hbefore, hup⟩
      · exact Or.inr hafter
      · exact Or.inl (hkept.usable path hpath hup hbefore)
  · intro done hdone hok
    obtain ⟨laps, hruns⟩ := returns_iff.mp hdone
    have hkept := hruns.kept_of_ok hsound hok
    exact ⟨laps, hruns, hkept.calls, hkept.shows, hkept.token_eq, hruns.reason hok⟩

namespace Sample

/-- A single attempt in each cycle. -/
def single : RefreshSettings where
  interval := .ofSecs 10
  once := false
  retry := { RetrySettings.default with enabled := false }

/-- The first attempt comes to a token and the others fail. -/
def once : Nat → Scripted
  | 0 => ⟨some 10, .ok [7]⟩
  | _ => ⟨some 10, .error (.loginFailed "flaky")⟩

/-- A store in a file, and no files yet. -/
def desk : Turn Desk := ⟨0, 0, ⟨0, .file (.create "token"), .empty, []⟩⟩

theorem usable : FileSystem.empty.Usable "token" where
  plain := by decide
  short := by decide
  shortNames := by decide
  above front _ _ object := by
    unfold FileSystem.node?
    split <;> simp [FileSystem.empty]
  free := by decide

end Sample

theorem deletes_last_if_failed_second : Sample.desk.world.files.Sound ∧
    ∃ done, Returns Sample.single .undisturbed (Desk.attempt Sample.once) Desk.delete
        Sample.desk done ∧
      done.outcome = .failed (.loginFailed "flaky") ∧
      done.world.calls.map Prod.fst = [.write [7], .delete] ∧
      done.world.token = .error .noData := by
  refine ⟨FileSystem.empty_sound, ?_⟩
  obtain ⟨_, hfailed, _⟩ := deletes_last_if_failed Sample.single .undisturbed Sample.once
    Sample.desk FileSystem.empty_sound
  have hrun : (run Sample.single .undisturbed (Desk.attempt Sample.once) Desk.delete 1 2
      0 0 Sample.desk.world).map (fun done => (done.outcome, done.world.calls.map Prod.fst)) =
        some (.failed (.loginFailed "flaky"), [.write [7], .delete]) := by
    decide +kernel
  obtain ⟨done, hdone, hshown⟩ := Option.map_eq_some_iff.mp hrun
  obtain ⟨houtcome, hcalls⟩ := Prod.mk.inj hshown
  have hreturns : Returns Sample.single .undisturbed (Desk.attempt Sample.once)
      Desk.delete Sample.desk done := ⟨1, 2, hdone⟩
  refine ⟨done, hreturns, houtcome, hcalls, (hfailed done _ hreturns houtcome).2 ?_⟩
  intro path hpath
  cases hpath
  exact Or.inr ⟨Sample.usable, by decide⟩

end WorkloadIdentity.Refresh
