import Mathlib.Data.List.SplitBy
import WorkloadIdentity.Proofs.Refresh.Deletion

/-!
The attempts of a run, cut after each one that succeeds. A run need not come to an end, so this is
about what it begins with: `Refresh.Begins` holds of the attempts that a run makes up to any point.
`Refresh.begins_of_run_none` says so of a run that is cut off wherever its fuel ends.
Each block is what one cycle made, and starts afresh, with its own count of attempts and its own
delays; `Refresh.attempts_fall_into_blocks` says all that ties the attempts together.
-/

namespace WorkloadIdentity

namespace Cycle

variable {σ α : Type} {s : RetrySettings} {schedule : Schedule} {make : Attempt σ α}
  {started : Instant} {backoff next : Backoff} {turn : Turn σ} {trial earlier later : Trial σ α}
  {trials : List (Trial σ α)} {done : CycleEnd σ α} {k i : Nat}

/-- A cycle makes these attempts first, whether or not it makes more of them, and whether or not
it ever ends. -/
inductive Begins (s : RetrySettings) (schedule : Schedule) (make : Attempt σ α)
    (started : Instant) : Backoff → Turn σ → List (Trial σ α) → Prop
  | here (backoff : Backoff) (turn : Turn σ) : Begins s schedule make started backoff turn []
  | made {backoff : Backoff} {turn : Turn σ} {finish : Finish σ α} :
      attemptAt s schedule make turn = .finished finish →
      Begins s schedule make started backoff turn [⟨turn, finish⟩]
  | paused {backoff next : Backoff} {turn : Turn σ} {finish : Finish σ α} {wake : Instant}
      {trials : List (Trial σ α)} :
      attemptAt s schedule make turn = .finished finish →
      sequel s schedule started backoff ⟨turn, finish⟩ = .pauses next wake →
      Begins s schedule make started next (Trial.next ⟨turn, finish⟩ wake) trials →
      Begins s schedule make started backoff turn (⟨turn, finish⟩ :: trials)

theorem Runs.begins (h : Runs s schedule make started backoff turn trials done) :
    Begins s schedule make started backoff turn trials := by
  induction h with
  | skipped _ => exact .here _ _
  | ended hattempt _ => exact .made hattempt
  | paused hattempt hsequel _ ih => exact .paused hattempt hsequel ih

theorem Leads.begins {later : Backoff} {due : Turn σ}
    (h : Leads s schedule make started backoff turn trials later due) :
    Begins s schedule make started backoff turn trials := by
  induction h with
  | here => exact .here _ _
  | paused hattempt hsequel _ ih => exact .paused hattempt hsequel ih

private theorem leads_of_runFrom_none (h : s.enabled = true) {fuel : Nat}
    (hrun : runFrom s schedule make started fuel turn.number backoff turn.now turn.world = none) :
    ∃ trials later due, Leads s schedule make started backoff turn trials later due ∧
      (trials.length = fuel ∨ attemptAt s schedule make due = .endless) := by
  induction fuel generalizing backoff turn with
  | zero => exact ⟨[], _, _, .here _ _, Or.inl rfl⟩
  | succ fuel ih =>
      rw [runFrom_succ h] at hrun
      cases hattempt : attemptAt s schedule make turn with
      | endless => exact ⟨[], _, _, .here _ _, Or.inr hattempt⟩
      | skipped => simp [hattempt] at hrun
      | finished finish =>
          simp only [hattempt] at hrun
          cases hsequel : sequel s schedule started backoff ⟨turn, finish⟩ with
          | ends outcome time => simp [hsequel] at hrun
          | pauses next wake =>
              simp only [hsequel, Option.map_eq_none_iff] at hrun
              obtain ⟨trials, later, due, hleads, hcut⟩ : ∃ trials later due,
                  Leads s schedule make started next (Trial.next ⟨turn, finish⟩ wake) trials later
                    due ∧ (trials.length = fuel ∨ attemptAt s schedule make due = .endless) :=
                ih hrun
              refine ⟨_ :: trials, later, due, .paused hattempt hsequel hleads, ?_⟩
              simpa using hcut

/-- A cycle that does not return has made as many attempts as it may, or the next one never
ends. -/
theorem leads_of_run_none {fuel : Nat}
    (h : run s schedule make fuel turn.number turn.now turn.world = none) :
    ∃ trials later due,
      Leads s schedule make turn.now (.ofSettings s) turn trials later due ∧
      (trials.length = fuel ∨ attemptAt s schedule make due = .endless) := by
  cases henabled : s.enabled with
  | false =>
      rw [run_disabled henabled] at h
      refine ⟨[], _, _, .here _ _, Or.inr ?_⟩
      cases hattempt : attemptAt s schedule make turn with
      | endless => rfl
      | skipped => simp [hattempt] at h
      | finished finish => simp [hattempt] at h
  | true =>
      rw [run, henabled] at h
      exact leads_of_runFrom_none henabled h

theorem Begins.first (h : Begins s schedule make started backoff turn trials)
    (hfirst : trials.head? = some trial) : trial.turn = turn := by
  cases h with
  | here => cases hfirst
  | made _ =>
      cases hfirst
      rfl
  | paused _ _ _ =>
      cases hfirst
      rfl

/-! ### From one attempt to the next -/

/-- Attempt `k` of a cycle is followed by another one. -/
structure Retries (s : RetrySettings) (k : Nat) (earlier later : Trial σ α) : Prop where
  enabled : s.enabled = true
  allows : s.Allows (k + 1)
  retryable : ∃ failure, earlier.finish.outcome = .failed failure ∧ failure.isRetryable = true
  pause : later.turn.now = earlier.finish.time.after (s.delay k)

theorem Retries.not_succeeded (h : Retries s k earlier later) : earlier.succeeded = false := by
  obtain ⟨failure, houtcome, _⟩ := h.retryable
  rw [Trial.succeeded, houtcome]
  rfl

theorem decide_pause_retryable {elapsed delay : Duration} {failure : Failure}
    (h : s.decide elapsed backoff failure = .pause delay next) : failure.isRetryable = true := by
  unfold RetrySettings.decide at h
  split at h
  · assumption
  · cases h

theorem sequel_pauses_retries {wake : Instant}
    (h : sequel s schedule started (s.backoffAfter k) trial = .pauses next wake) :
    next = s.backoffAfter (k + 1) ∧
      ∀ later : Trial σ α, later.turn.now = wake → Retries s k trial later := by
  obtain ⟨henabled, failure, delay, houtcome, hdecide, hwake⟩ := sequel_pauses h
  obtain ⟨rfl, hnext, hallows⟩ := next?_backoffAfter_some (decide_pause hdecide)
  refine ⟨hnext, ?_⟩
  intro later hlater
  have hretryable := decide_pause_retryable hdecide
  exact ⟨henabled, hallows, ⟨failure, houtcome, hretryable⟩, hlater.trans hwake⟩

theorem Begins.retries (h : Begins s schedule make started backoff turn trials)
    (hbackoff : backoff = s.backoffAfter k) (hearlier : trials[i]? = some earlier)
    (hlater : trials[i + 1]? = some later) : Retries s (k + i) earlier later := by
  -- On the rounds; the delays that are left say how many attempts there have been.
  induction h generalizing k i with
  | here => cases hearlier
  | made _ => cases hlater
  | @paused backoff next turn finish wake trials _ hsequel hrest ih =>
      subst hbackoff
      obtain ⟨hnext, hretries⟩ := sequel_pauses_retries hsequel
      cases i with
      | zero =>
          obtain rfl : ⟨turn, finish⟩ = earlier := Option.some.inj hearlier
          have hhead : trials.head? = some later := by
            rw [List.head?_eq_getElem?]
            exact hlater
          have hnow : later.turn.now = wake := by
            rw [hrest.first hhead]
            rfl
          exact hretries later hnow
      | succ i =>
          rw [show k + (i + 1) = k + 1 + i by omega]
          exact ih hnext hearlier hlater

/-- The attempts of a cycle from its start on. -/
theorem Begins.retries_start (h : Begins s schedule make started (.ofSettings s) turn trials)
    (hearlier : trials[i]? = some earlier) (hlater : trials[i + 1]? = some later) :
    Retries s i earlier later := by
  have hretries := h.retries s.backoffAfter_zero.symm hearlier hlater
  rwa [Nat.zero_add] at hretries

theorem Begins.isChain (h : Begins s schedule make started (.ofSettings s) turn trials) :
    trials.IsChain fun earlier later => ∃ k, Retries s k earlier later := by
  rw [List.isChain_iff_getElem]
  intro i hi
  exact ⟨i, h.retries_start (List.getElem?_eq_getElem _) (List.getElem?_eq_getElem hi)⟩

/-! ### The end of a cycle -/

theorem sequel_of_ok {value : α} (houtcome : trial.finish.outcome = .ok value) :
    sequel s schedule started backoff trial = .ends (.ok value) trial.finish.time := by
  simp only [sequel, houtcome, ite_self]

/-- A cycle that succeeds does so with its last attempt. -/
theorem Runs.last_of_ok {value : α} (h : Runs s schedule make started backoff turn trials done)
    (hok : done.outcome = .ok value) :
    ∃ last, trials.getLast? = some last ∧ last.finish.outcome = .ok value ∧
      last.finish.time = done.time := by
  induction h with
  | skipped _ => cases hok
  | @ended backoff turn finish outcome time _ hsequel =>
      obtain rfl : outcome = .ok value := hok
      have hsucceeded := (sequel_ends hsequel).1
      cases houtcome : finish.outcome with
      | ok own =>
          rw [sequel_of_ok houtcome] at hsequel
          cases hsequel
          exact ⟨_, rfl, houtcome, rfl⟩
      | failed failure => simp [Outcome.isOk, Trial.succeeded, houtcome] at hsucceeded
      | overflow => simp [Outcome.isOk, Trial.succeeded, houtcome] at hsucceeded
  | paused _ _ _ ih =>
      obtain ⟨last, hlast, hends⟩ := ih hok
      exact ⟨last, by rw [List.getLast?_cons, hlast]; rfl, hends⟩

end Cycle

namespace Refresh

variable {σ : Type} {s : RefreshSettings} {schedule : Schedule} {make : Attempt σ Unit}
  {delete : σ → σ} {turn : Turn σ} {lap : Lap σ} {laps : List (Lap σ)} {done : RefreshEnd σ}
  {earlier later : Trial σ Unit} {trials attempts rest : List (Trial σ Unit)} {wake : Instant}

/-- A run makes these attempts first, whether or not it makes more of them, and whether or not it
ever ends. -/
inductive Begins (s : RefreshSettings) (schedule : Schedule) (make : Attempt σ Unit) :
    Turn σ → List (Trial σ Unit) → Prop
  | within {turn : Turn σ} {trials : List (Trial σ Unit)} :
      Cycle.Begins s.retry schedule make turn.now (.ofSettings s.retry) turn trials →
      Begins s schedule make turn trials
  | paused {lap : Lap σ} {wake : Instant} {rest : List (Trial σ Unit)} :
      Made s schedule make lap → sequel s schedule lap = .pauses wake →
      Begins s schedule make (lap.next wake) rest →
      Begins s schedule make lap.turn (lap.trials ++ rest)

theorem Runs.begins (h : Runs s schedule make delete turn laps done) :
    Begins s schedule make turn (laps.flatMap Lap.trials) := by
  induction h with
  | ended hmade _ =>
      rw [List.flatMap_singleton]
      exact .within (Cycle.Runs.begins hmade)
  | paused hmade hsequel _ ih => exact .paused hmade hsequel ih

theorem Leads.begins {start : Turn σ} (h : Leads s schedule make turn laps start)
    (hcycle : Cycle.Begins s.retry schedule make start.now (.ofSettings s.retry) start trials) :
    Begins s schedule make turn (laps.flatMap Lap.trials ++ trials) := by
  induction h with
  | here => exact .within hcycle
  | paused hmade hsequel _ ih =>
      rw [List.flatMap_cons, List.append_assoc]
      exact .paused hmade hsequel (ih hcycle)

/-- A run that is out of fuel has made all attempts of as many cycles as it may, or those of some
cycles and then as many as it may in the next one; or else the next attempt never ends. Either way
they are attempts that the run begins with. -/
theorem begins_of_run_none {limit fuel : Nat}
    (h : run s schedule make delete limit fuel turn.number turn.now turn.world = none) :
    ∃ laps start trials later due,
      Leads s schedule make turn laps start ∧
      Cycle.Leads s.retry schedule make start.now (.ofSettings s.retry) start trials later due ∧
      (laps.length = fuel ∧ trials = [] ∨ trials.length = limit ∨
        Cycle.attemptAt s.retry schedule make due = .endless) ∧
      Begins s schedule make turn (laps.flatMap Lap.trials ++ trials) := by
  induction fuel generalizing turn with
  | zero =>
      exact ⟨[], turn, [], _, _, .here _, .here _ _, Or.inl ⟨rfl, rfl⟩, .within (.here _ _)⟩
  | succ fuel ih =>
      cases hcycle : Cycle.run s.retry schedule make limit turn.number turn.now turn.world with
      | none =>
          obtain ⟨trials, later, due, hleads, hcut⟩ := Cycle.leads_of_run_none hcycle
          exact ⟨[], turn, trials, later, due, .here _, hleads, Or.inr hcut,
            .within hleads.begins⟩
      | some cycle =>
          obtain ⟨own, hruns⟩ := Cycle.returns_iff.mp ⟨limit, hcycle⟩
          have hmade : Made s schedule make ⟨turn, own, cycle⟩ := hruns
          rw [run_succ own hcycle] at h
          cases hsequel : sequel s schedule ⟨turn, own, cycle⟩ with
          | ends outcome time => simp [hsequel] at h
          | pauses wake =>
              simp only [hsequel, Option.map_eq_none_iff] at h
              let next : Turn σ := Lap.next ⟨turn, own, cycle⟩ wake
              have hnext : run s schedule make delete limit fuel next.number next.now
                  next.world = none := h
              obtain ⟨laps, start, trials, later, due, hlaps, htrials, hcut, _⟩ := ih hnext
              have hleads := Leads.paused hmade hsequel hlaps
              refine ⟨_ :: laps, start, trials, later, due, hleads, htrials, ?_,
                hleads.begins htrials.begins⟩
              simpa using hcut

/-! ### From one attempt to the next -/

/-- A success is followed by another cycle. -/
structure Refreshes (s : RefreshSettings) (earlier later : Trial σ Unit) : Prop where
  again : s.once = false
  succeeded : earlier.succeeded = true
  pause : later.turn.now = earlier.finish.time.after s.interval

theorem sequel_pauses (h : sequel s schedule lap = .pauses wake) :
    s.once = false ∧ lap.done.outcome = .ok () ∧ wake = lap.done.time.after s.interval := by
  unfold sequel at h
  split at h
  · cases h
  · split at h <;> cases h
  · rename_i houtcome
    split at h
    · cases h
    · rename_i hagain
      dsimp only at h
      split at h
      · cases h
      · cases h
        exact ⟨Bool.not_eq_true _ ▸ hagain, houtcome, rfl⟩

/-- The last attempt of a cycle that another one follows. -/
theorem refreshes (hmade : Made s schedule make lap)
    (hsequel : sequel s schedule lap = .pauses wake) :
    ∃ last, lap.trials.getLast? = some last ∧ last.succeeded = true ∧
      ∀ later : Trial σ Unit, later.turn.now = wake → Refreshes s last later := by
  obtain ⟨hagain, hok, hwake⟩ := sequel_pauses hsequel
  obtain ⟨last, hlast, houtcome, htime⟩ := Cycle.Runs.last_of_ok hmade hok
  have hsucceeded : last.succeeded = true := by
    rw [Trial.succeeded, houtcome]
    rfl
  refine ⟨last, hlast, hsucceeded, ?_⟩
  intro later hlater
  exact ⟨hagain, hsucceeded, by rw [hlater, hwake, htime]⟩

theorem trials_ne_nil (hmade : Made s schedule make lap)
    (hsequel : sequel s schedule lap = .pauses wake) : lap.trials ≠ [] := by
  obtain ⟨last, hlast, _⟩ := refreshes hmade hsequel
  rintro hnil
  simp [hnil] at hlast

theorem Begins.first (h : Begins s schedule make turn attempts)
    (hfirst : attempts.head? = some later) : later.turn.now = turn.now := by
  cases h with
  | within hbegins => rw [hbegins.first hfirst]
  | paused hmade hsequel _ =>
      rw [List.head?_append_of_ne_nil _ (trials_ne_nil hmade hsequel)] at hfirst
      rw [(Cycle.Runs.begins hmade).first hfirst]

theorem Begins.isChain (h : Begins s schedule make turn attempts) :
    attempts.IsChain fun earlier later =>
      (∃ k, Cycle.Retries s.retry k earlier later) ∨ Refreshes s earlier later := by
  induction h with
  | within hbegins => exact hbegins.isChain.imp fun _ _ hretries => Or.inl hretries
  | @paused lap wake rest hmade hsequel hrest ih =>
      obtain ⟨last, hlast, _, hrefreshes⟩ := refreshes hmade hsequel
      rw [List.isChain_append]
      refine ⟨?_, ih, ?_⟩
      · exact (Cycle.Runs.begins hmade).isChain.imp fun _ _ hretries => Or.inl hretries
      · intro earlier hearlier later hlater
        cases hlast.symm.trans hearlier
        exact Or.inr (hrefreshes later (hrest.first hlater))

/-! ### Blocks -/

/-- The attempts, cut after each one that succeeds. -/
def blocks (attempts : List (Trial σ Unit)) : List (List (Trial σ Unit)) :=
  attempts.splitBy fun earlier _ => !earlier.succeeded

theorem blocks_nil : blocks ([] : List (Trial σ Unit)) = [] := rfl

/-- Attempts of which at most the last one succeeds are one block. -/
theorem blocks_of_retries (hne : trials ≠ [])
    (hretries : trials.IsChain fun earlier later => ∃ k, Cycle.Retries s.retry k earlier later) :
    blocks trials = [trials] := by
  apply List.splitBy_of_isChain hne
  refine hretries.imp ?_
  rintro earlier later ⟨k, hretry⟩
  rw [hretry.not_succeeded]
  rfl

theorem blocks_append {last : Trial σ Unit} (hlast : trials.getLast? = some last)
    (hsucceeded : last.succeeded = true) :
    blocks (trials ++ rest) = blocks trials ++ blocks rest := by
  apply List.splitBy_append
  intro earlier hearlier later _
  cases hlast.symm.trans hearlier
  simp [hsucceeded]

/-- The attempts of a cycle that another one follows are a block. -/
theorem blocks_paused (hmade : Made s schedule make lap)
    (hsequel : sequel s schedule lap = .pauses wake) :
    blocks (lap.trials ++ rest) = lap.trials :: blocks rest := by
  obtain ⟨last, hlast, hsucceeded, _⟩ := refreshes hmade hsequel
  have hblock := blocks_of_retries (trials_ne_nil hmade hsequel) (Cycle.Runs.begins hmade).isChain
  rw [blocks_append hlast hsucceeded, hblock]
  rfl

/-- What ties the attempts of a block together. It has a count and delays of its own: the delay
after its first attempt is the initial one. To be dropped at its limit is a failure of an attempt
that may be repeated. -/
structure Block (s : RetrySettings) (block : List (Trial σ Unit)) : Prop where
  nonempty : block ≠ []
  limited : s.enabled = true → 0 < s.maxAttempts → block.length ≤ s.maxAttempts
  single : s.enabled = false → block.length = 1
  retryable : ∀ trial ∈ block.dropLast,
    ∃ failure, trial.finish.outcome = .failed failure ∧ failure.isRetryable = true
  pauses : ∀ i earlier later, block[i]? = some earlier → block[i + 1]? = some later →
    later.turn.now = earlier.finish.time.after (s.delay i)

/-- A block ends in a success, and the next one begins when the pause after it is over. -/
def Follows (interval : Duration) (earlier later : List (Trial σ Unit)) : Prop :=
  ∃ last first, earlier.getLast? = some last ∧ later.head? = some first ∧
    last.succeeded = true ∧ first.turn.now = last.finish.time.after interval

theorem block_of_begins (hne : trials ≠ [])
    (h : Cycle.Begins s.retry schedule make turn.now (.ofSettings s.retry) turn trials) :
    Block s.retry trials where
  nonempty := hne
  limited _ hpositive := by
    by_cases hmore : trials.length ≤ 1
    · omega
    · have hretries := h.retries_start (i := trials.length - 2)
        (List.getElem?_eq_getElem (by omega)) (List.getElem?_eq_getElem (by omega))
      rcases hretries.allows with hendless | hless <;> omega
  single hdisabled := by
    have hpositive := List.length_pos_iff.mpr hne
    by_cases hmore : trials.length = 1
    · exact hmore
    · have hretries := h.retries_start (i := 0)
        (List.getElem?_eq_getElem hpositive) (List.getElem?_eq_getElem (by omega))
      exact absurd hretries.enabled (by simp [hdisabled])
  retryable trial htrial := by
    obtain ⟨i, hi, rfl⟩ := List.getElem_of_mem htrial
    rw [List.length_dropLast] at hi
    have hretries := h.retries_start (i := i)
      (List.getElem?_eq_getElem (by omega)) (List.getElem?_eq_getElem (by omega))
    simpa using hretries.retryable
  pauses i earlier later hearlier hlater := (h.retries_start hearlier hlater).pause

/-- The first block is where the attempts begin. -/
theorem head?_blocks {block : List (Trial σ Unit)} (h : (blocks attempts).head? = some block) :
    block.head? = attempts.head? := by
  have hflatten : (blocks attempts).flatten = attempts := List.flatten_splitBy _ _
  have hne : block ≠ [] := List.ne_nil_of_mem_splitBy (List.mem_of_mem_head? h)
  obtain ⟨others, hothers⟩ := List.head?_eq_some_iff.mp h
  rw [← hflatten, hothers, List.flatten_cons, List.head?_append_of_ne_nil _ hne]

theorem Begins.blocks_hold (h : Begins s schedule make turn attempts) :
    (∀ block ∈ blocks attempts, Block s.retry block) ∧
      (blocks attempts).IsChain (Follows s.interval) := by
  induction h with
  | @within turn trials hbegins =>
      by_cases hnil : trials = []
      · subst hnil
        exact ⟨by simp [blocks_nil], .nil⟩
      · rw [blocks_of_retries hnil hbegins.isChain]
        refine ⟨?_, .singleton _⟩
        intro block hblock
        obtain rfl := List.mem_singleton.mp hblock
        exact block_of_begins hnil hbegins
  | @paused lap wake rest hmade hsequel hrest ih =>
      obtain ⟨hblocks, hchain⟩ := ih
      obtain ⟨last, hlast, hsucceeded, hrefreshes⟩ := refreshes hmade hsequel
      rw [blocks_paused hmade hsequel]
      constructor
      · intro block hblock
        rcases List.mem_cons.mp hblock with rfl | hblock
        · exact block_of_begins (trials_ne_nil hmade hsequel) (Cycle.Runs.begins hmade)
        · exact hblocks block hblock
      · refine List.isChain_cons.mpr ⟨?_, hchain⟩
        intro block hblock
        obtain ⟨first, others, rfl⟩ := List.exists_cons_of_ne_nil
          (hblocks block (List.mem_of_mem_head? hblock)).nonempty
        have hfirst : rest.head? = some first := by
          rw [← head?_blocks hblock]
          rfl
        have hpause := (hrefreshes first (hrest.first hfirst)).pause
        exact ⟨last, first, hlast, rfl, hsucceeded, hpause⟩

/-- The cycles that a run reports are the blocks, but for those in which the signal kept the run
from making an attempt. -/
theorem Runs.cycles_eq (h : Runs s schedule make delete turn laps done) :
    done.cycles.filter (· ≠ []) =
      (blocks (laps.flatMap Lap.trials)).map (List.map Trial.window) := by
  induction h with
  | @ended lap outcome time hmade _ =>
      rw [List.flatMap_singleton, endOf, Cycle.Runs.windows_eq hmade]
      by_cases hnil : lap.trials = []
      · simp [hnil, blocks_nil]
      · rw [blocks_of_retries hnil (Cycle.Runs.begins hmade).isChain]
        simp [hnil]
  | @paused lap wake laps rest hmade hsequel _ ih =>
      rw [List.flatMap_cons, blocks_paused hmade hsequel, List.map_cons, ← ih,
        Cycle.Runs.windows_eq hmade]
      simp [trials_ne_nil hmade hsequel]

/-- There is no attempt after one that failed for good, and with one success to come to there is
none after it. -/
theorem Begins.last_of_final {trial : Trial σ Unit} {before after : List (Trial σ Unit)}
    (h : Begins s schedule make turn (before ++ trial :: after)) :
    (∀ failure, trial.finish.outcome = .failed failure → failure.isRetryable = false →
      after = []) ∧
    (s.once = true → trial.succeeded = true → after = []) := by
  have hnext : ∀ later ∈ after.head?, (∃ k, Cycle.Retries s.retry k trial later) ∨
      Refreshes s trial later := by
    have htail := (List.isChain_append.mp h.isChain).2.1
    exact (List.isChain_cons.mp htail).1
  cases after with
  | nil => simp
  | cons later others =>
      rcases hnext later rfl with ⟨k, hretries⟩ | hrefreshes
      · obtain ⟨failure, houtcome, hretryable⟩ := hretries.retryable
        constructor
        · intro final hfinal hnot
          cases houtcome.symm.trans hfinal
          simp [hretryable] at hnot
        · intro _ hsucceeded
          simp [hretries.not_succeeded] at hsucceeded
      · constructor
        · intro final hfinal _
          have hsucceeded := hrefreshes.succeeded
          simp [Trial.succeeded, hfinal, Outcome.isOk] at hsucceeded
        · intro honce _
          simp [hrefreshes.again] at honce

/-- Cut after each success, the attempts that a run makes up to any point fall into blocks. A block
keeps to the limit of attempts and to the delays as if it were the first; all but its last attempt
failed, with a failure that may be repeated. Every block but the last ends in a success, and the
next one begins one interval later. Nothing follows a failure for good, nor the success of a run
that is to succeed once. A run that ends reports its blocks as its cycles. -/
theorem attempts_fall_into_blocks (s : RefreshSettings) (schedule : Schedule)
    (make : Attempt σ Unit) (delete : σ → σ) (start : Turn σ) :
    (∀ attempts, Begins s schedule make start attempts →
      (∀ block ∈ blocks attempts, Block s.retry block) ∧
      (blocks attempts).IsChain (Follows s.interval) ∧
      ∀ before trial after, attempts = before ++ trial :: after →
        (∀ failure, trial.finish.outcome = .failed failure → failure.isRetryable = false →
          after = []) ∧
        (s.once = true → trial.succeeded = true → after = [])) ∧
    ∀ done, Returns s schedule make delete start done →
      ∃ attempts, Begins s schedule make start attempts ∧
        done.cycles.filter (· ≠ []) = (blocks attempts).map (List.map Trial.window) := by
  constructor
  · intro attempts hbegins
    obtain ⟨hblocks, hchain⟩ := hbegins.blocks_hold
    refine ⟨hblocks, hchain, ?_⟩
    rintro before trial after rfl
    exact hbegins.last_of_final
  · intro done hdone
    obtain ⟨laps, hruns⟩ := returns_iff.mp hdone
    exact ⟨_, hruns.begins, hruns.cycles_eq⟩

namespace Sample

/-- Up to three attempts in each cycle. -/
def retrying : RefreshSettings where
  interval := .ofSecs 1
  once := false
  retry := { RetrySettings.default with
    maxAttempts := 3, initialBackoff := Cycle.Sample.settings.initialBackoff }

/-- Two successes, after one and after two failures, and then a failure for good. -/
def uneven : Nat → Scripted
  | 1 | 4 => ⟨some 10, .ok [7]⟩
  | 5 => ⟨some 10, .error (.untrustedAuthority "expired")⟩
  | _ => ⟨some 10, .error (.loginFailed "flaky")⟩

def memory : Turn Desk := ⟨0, 0, ⟨0, .memory .empty, .empty, []⟩⟩

end Sample

theorem attempts_fall_into_blocks_uneven : ∃ attempts,
    Begins Sample.retrying .undisturbed (Desk.attempt Sample.uneven) Sample.memory attempts ∧
    (blocks attempts).map (List.map Trial.window) =
      [[⟨0, 10, false⟩, ⟨110, 120, false⟩],
        [⟨1120, 1130, false⟩, ⟨1230, 1240, false⟩, ⟨1441, 1451, false⟩],
        [⟨2451, 2461, false⟩]] ∧
    (blocks attempts).IsChain (Follows Sample.retrying.interval) ∧
    ∀ block ∈ blocks attempts, Block Sample.retrying.retry block := by
  obtain ⟨hbegins, hends⟩ := attempts_fall_into_blocks Sample.retrying .undisturbed
    (Desk.attempt Sample.uneven) Desk.delete Sample.memory
  have hrun : (run Sample.retrying .undisturbed (Desk.attempt Sample.uneven) Desk.delete 4 3
      0 0 Sample.memory.world).map (fun done => done.cycles.filter (· ≠ [])) =
        some [[⟨0, 10, false⟩, ⟨110, 120, false⟩],
          [⟨1120, 1130, false⟩, ⟨1230, 1240, false⟩, ⟨1441, 1451, false⟩],
          [⟨2451, 2461, false⟩]] := by
    decide +kernel
  obtain ⟨done, hdone, hcycles⟩ := Option.map_eq_some_iff.mp hrun
  obtain ⟨attempts, hattempts, hblocks⟩ := hends done ⟨4, 3, hdone⟩
  obtain ⟨hheld, hchain, _⟩ := hbegins attempts hattempts
  exact ⟨attempts, hattempts, hblocks.symm.trans hcycles, hchain, hheld⟩

end Refresh

end WorkloadIdentity
