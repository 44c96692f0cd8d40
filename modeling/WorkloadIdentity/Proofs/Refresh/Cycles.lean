import WorkloadIdentity.Retry.Refresh
import WorkloadIdentity.Proofs.Retry.Rounds

/-!
A run taken cycle by cycle, in the way in which a cycle is taken round by round: `Refresh.Leads`
says which cycles lead from one turn to a later one, `Refresh.Runs` which lead to the end, and
`Refresh.returns_iff` that this is what a run computes.
-/

namespace WorkloadIdentity

/-- A cycle as it was made. -/
structure Lap (σ : Type) where
  turn : Turn σ
  trials : List (Trial σ Unit)
  done : CycleEnd σ Unit

/-- The turn that follows when the pause is over. -/
def Lap.next {σ : Type} (lap : Lap σ) (wake : Instant) : Turn σ :=
  ⟨lap.turn.number + lap.done.windows.length, wake, lap.done.world⟩

namespace Refresh

variable {σ : Type} {s : RefreshSettings} {schedule : Schedule} {make : Attempt σ Unit}
  {delete : σ → σ} {turn final : Turn σ} {lap : Lap σ} {front laps : List (Lap σ)}
  {done : RefreshEnd σ}

/-! ### One cycle -/

/-- What follows a cycle: the end of the run, or another cycle after a pause. -/
inductive Sequel where
  | ends (outcome : Outcome Unit) (time : Instant)
  | pauses (wake : Instant)

def sequel (s : RefreshSettings) (schedule : Schedule) (lap : Lap σ) : Sequel :=
  match lap.done.outcome with
  | .overflow => .ends .overflow lap.done.time
  | .failed failure =>
    if failure = .cancelled ∧ schedule.stopped lap.done.time then .ends (.ok ()) lap.done.time
    else .ends (.failed failure) lap.done.time
  | .ok () =>
    if s.once then .ends (.ok ()) lap.done.time
    else
      let wake := lap.done.time.after s.interval
      let last := lap.turn.number + lap.done.windows.length - 1
      match schedule.interrupts? lap.done.time wake (schedule.pauseFirst last) with
      | some seen => .ends (.ok ()) seen
      | none => .pauses wake

/-- The world after a run that ends in this way. -/
def leave (delete : σ → σ) (outcome : Outcome Unit) (world : σ) : σ :=
  match outcome with
  | .failed _ => delete world
  | _ => world

/-- The end of a run with its last cycle. -/
def endOf (delete : σ → σ) (lap : Lap σ) (outcome : Outcome Unit) (time : Instant) :
    RefreshEnd σ :=
  { time, outcome, world := leave delete outcome lap.done.world, cycles := [lap.done.windows] }

theorem sequel_of_cancelled (hfailed : lap.done.outcome = .failed .cancelled)
    (hstopped : schedule.stopped lap.done.time = true) :
    sequel s schedule lap = .ends (.ok ()) lap.done.time := by
  simp [sequel, hfailed, hstopped]

theorem sequel_of_failed {failure : Failure} (hfailed : lap.done.outcome = .failed failure)
    (hown : ¬(failure = .cancelled ∧ schedule.stopped lap.done.time = true)) :
    sequel s schedule lap = .ends (.failed failure) lap.done.time := by
  simp only [sequel, hfailed, hown, if_false]

/-! ### All cycles -/

/-- A cycle that starts at a turn and makes these attempts. -/
def Made (s : RefreshSettings) (schedule : Schedule) (make : Attempt σ Unit) (lap : Lap σ) :
    Prop :=
  Cycle.Runs s.retry schedule make lap.turn.now (.ofSettings s.retry) lap.turn lap.trials lap.done

/-- These cycles lead from one turn to another, with a pause after each. -/
inductive Leads (s : RefreshSettings) (schedule : Schedule) (make : Attempt σ Unit) :
    Turn σ → List (Lap σ) → Turn σ → Prop
  | here (turn : Turn σ) : Leads s schedule make turn [] turn
  | paused {lap : Lap σ} {final : Turn σ} {wake : Instant} {laps : List (Lap σ)} :
      Made s schedule make lap → sequel s schedule lap = .pauses wake →
      Leads s schedule make (lap.next wake) laps final →
      Leads s schedule make lap.turn (lap :: laps) final

/-- These cycles lead from a turn to the end of the run. -/
inductive Runs (s : RefreshSettings) (schedule : Schedule) (make : Attempt σ Unit)
    (delete : σ → σ) : Turn σ → List (Lap σ) → RefreshEnd σ → Prop
  | ended {lap : Lap σ} {outcome : Outcome Unit} {time : Instant} :
      Made s schedule make lap → sequel s schedule lap = .ends outcome time →
      Runs s schedule make delete lap.turn [lap] (endOf delete lap outcome time)
  | paused {lap : Lap σ} {wake : Instant} {laps : List (Lap σ)} {rest : RefreshEnd σ} :
      Made s schedule make lap → sequel s schedule lap = .pauses wake →
      Runs s schedule make delete (lap.next wake) laps rest →
      Runs s schedule make delete lap.turn (lap :: laps)
        { rest with cycles := lap.done.windows :: rest.cycles }

/-- A run that starts at a turn comes to this end. -/
def Returns (s : RefreshSettings) (schedule : Schedule) (make : Attempt σ Unit)
    (delete : σ → σ) (turn : Turn σ) (done : RefreshEnd σ) : Prop :=
  ∃ attempts fuel,
    run s schedule make delete attempts fuel turn.number turn.now turn.world = some done

/-- The rest of a run by the sequel of its next cycle. -/
theorem run_succ {attempts : Nat} {cycle : CycleEnd σ Unit} (trials : List (Trial σ Unit))
    (hcycle : Cycle.run s.retry schedule make attempts turn.number turn.now turn.world =
      some cycle) (fuel : Nat) :
    run s schedule make delete attempts (fuel + 1) turn.number turn.now turn.world =
      match sequel s schedule ⟨turn, trials, cycle⟩ with
      | .ends outcome time => some (endOf delete ⟨turn, trials, cycle⟩ outcome time)
      | .pauses wake =>
        (run s schedule make delete attempts fuel (turn.number + cycle.windows.length) wake
          cycle.world).map fun rest => { rest with cycles := cycle.windows :: rest.cycles } := by
  rw [run, hcycle]
  simp only [sequel]
  cases cycle.outcome with
  | overflow => rfl
  | failed failure =>
      by_cases hstopped : failure = .cancelled ∧ schedule.stopped cycle.time = true
      · simp only [hstopped, and_self, if_true]
        rfl
      · simp only [hstopped, if_false]
        rfl
  | ok value =>
      cases s.once with
      | true => rfl
      | false =>
          simp only [Bool.false_eq_true, if_false]
          cases schedule.interrupts? cycle.time (cycle.time.after s.interval)
            (schedule.pauseFirst (turn.number + cycle.windows.length - 1)) <;> rfl

private theorem runs_of_run {attempts fuel : Nat}
    (h : run s schedule make delete attempts fuel turn.number turn.now turn.world = some done) :
    ∃ laps, Runs s schedule make delete turn laps done := by
  induction fuel generalizing turn done with
  | zero => cases h
  | succ fuel ih =>
      cases hcycle : Cycle.run s.retry schedule make attempts turn.number turn.now turn.world with
      | none => simp [run, hcycle] at h
      | some cycle =>
          obtain ⟨trials, hruns⟩ := Cycle.returns_iff.mp ⟨attempts, hcycle⟩
          have hmade : Made s schedule make ⟨turn, trials, cycle⟩ := hruns
          rw [run_succ trials hcycle] at h
          cases hsequel : sequel s schedule ⟨turn, trials, cycle⟩ with
          | ends outcome time =>
              simp only [hsequel, Option.some.injEq] at h
              subst h
              exact ⟨[⟨turn, trials, cycle⟩], .ended hmade hsequel⟩
          | pauses wake =>
              simp only [hsequel, Option.map_eq_some_iff] at h
              obtain ⟨rest, hrest, rfl⟩ := h
              obtain ⟨laps, hruns⟩ : ∃ laps, Runs s schedule make delete
                  (Lap.next ⟨turn, trials, cycle⟩ wake) laps rest := ih hrest
              exact ⟨⟨turn, trials, cycle⟩ :: laps, .paused hmade hsequel hruns⟩

/-- More fuel than cycles, and more than attempts in each of them, is enough. -/
theorem Runs.run_eq (h : Runs s schedule make delete turn laps done) {attempts fuel : Nat}
    (hattempts : ∀ lap ∈ laps, lap.trials.length < attempts) (hfuel : laps.length ≤ fuel) :
    run s schedule make delete attempts fuel turn.number turn.now turn.world = some done := by
  induction h generalizing fuel with
  | @ended lap outcome time hmade hsequel =>
      obtain ⟨fuel, rfl⟩ := Nat.exists_eq_succ_of_ne_zero (Nat.ne_zero_of_lt hfuel)
      have hcycle := Cycle.Runs.run_eq hmade (hattempts lap (by simp))
      rw [run_succ lap.trials hcycle, hsequel]
  | @paused lap wake laps rest hmade hsequel _ ih =>
      obtain ⟨fuel, rfl⟩ := Nat.exists_eq_succ_of_ne_zero (Nat.ne_zero_of_lt hfuel)
      have hcycle := Cycle.Runs.run_eq hmade (hattempts lap (by simp))
      have hrest := ih (fun other hother => hattempts other (by simp [hother]))
        (Nat.le_of_succ_le_succ hfuel)
      rw [run_succ lap.trials hcycle, hsequel]
      simp only [Lap.next] at hrest
      simp only [hrest, Option.map_some]

/-- The cycles of a run are what it computes, if it is given enough fuel. -/
theorem returns_iff : Returns s schedule make delete turn done ↔
    ∃ laps, Runs s schedule make delete turn laps done := by
  constructor
  · rintro ⟨attempts, fuel, hrun⟩
    exact runs_of_run hrun
  · rintro ⟨laps, hruns⟩
    refine ⟨(laps.map Lap.trials).flatten.length + 1, laps.length,
      hruns.run_eq ?_ (Nat.le_refl _)⟩
    intro lap hlap
    exact Nat.lt_succ_of_le (List.sublist_flatten_of_mem (List.mem_map_of_mem hlap)).length_le

theorem Made.unique {other : Lap σ} (h : Made s schedule make lap)
    (hother : Made s schedule make other) (hturn : lap.turn = other.turn) : other = lap := by
  obtain ⟨turn, trials, cycle⟩ := lap
  obtain ⟨otherTurn, others, otherCycle⟩ := other
  obtain rfl : turn = otherTurn := hturn
  obtain ⟨rfl, rfl⟩ := Cycle.Runs.unique h hother
  rfl

theorem Runs.unique {others : List (Lap σ)} {other : RefreshEnd σ}
    (h : Runs s schedule make delete turn laps done)
    (hother : Runs s schedule make delete turn others other) :
    others = laps ∧ other = done := by
  induction h generalizing others other with
  | @ended lap outcome time hmade hsequel =>
      generalize hturn : lap.turn = turn at hother
      cases hother with
      | ended hagain hends =>
          obtain rfl := hmade.unique hagain hturn
          cases hsequel.symm.trans hends
          exact ⟨rfl, rfl⟩
      | paused hagain hpauses _ =>
          obtain rfl := hmade.unique hagain hturn
          cases hsequel.symm.trans hpauses
  | @paused lap wake laps rest hmade hsequel _ ih =>
      generalize hturn : lap.turn = turn at hother
      cases hother with
      | ended hagain hends =>
          obtain rfl := hmade.unique hagain hturn
          cases hsequel.symm.trans hends
      | paused hagain hpauses hrest =>
          obtain rfl := hmade.unique hagain hturn
          cases hsequel.symm.trans hpauses
          obtain ⟨rfl, rfl⟩ := ih hrest
          exact ⟨rfl, rfl⟩

theorem Returns.unique {other : RefreshEnd σ} (h : Returns s schedule make delete turn done)
    (hother : Returns s schedule make delete turn other) : other = done := by
  obtain ⟨_, hruns⟩ := returns_iff.mp h
  obtain ⟨_, hothers⟩ := returns_iff.mp hother
  exact (hruns.unique hothers).2

/-! ### The last cycle -/

/-- A run leads to its last cycle and ends with it. -/
theorem Runs.last (h : Runs s schedule make delete turn laps done) :
    ∃ front lap, laps = front ++ [lap] ∧ Leads s schedule make turn front lap.turn ∧
      Made s schedule make lap ∧ sequel s schedule lap = .ends done.outcome done.time ∧
      done.world = leave delete done.outcome lap.done.world := by
  induction h with
  | @ended lap outcome time hmade hsequel =>
      exact ⟨[], lap, rfl, .here _, hmade, hsequel, rfl⟩
  | @paused lap wake laps rest hmade hsequel _ ih =>
      obtain ⟨front, last, rfl, hleads, hlast⟩ := ih
      exact ⟨lap :: front, last, rfl, .paused hmade hsequel hleads, hlast⟩

theorem Leads.runs (h : Leads s schedule make turn front final)
    (hrest : Runs s schedule make delete final laps done) :
    Runs s schedule make delete turn (front ++ laps)
      { done with cycles := front.map (·.done.windows) ++ done.cycles } := by
  induction h with
  | here => exact hrest
  | paused hmade hsequel _ ih => exact .paused hmade hsequel (ih hrest)

/-- What holds of the world at the start and is kept by every attempt holds after any cycles. -/
theorem Leads.keeps {Holds : List (Trial σ Unit) → σ → Prop}
    (hstep : ∀ trials turn finish, Holds trials turn.world →
      Cycle.attemptAt s.retry schedule make turn = .finished finish →
      Holds (trials ++ [⟨turn, finish⟩]) finish.world)
    (h : Leads s schedule make turn front final) {trials : List (Trial σ Unit)}
    (hstart : Holds trials turn.world) :
    Holds (trials ++ front.flatMap Lap.trials) final.world := by
  induction h generalizing trials with
  | here => simpa using hstart
  | @paused lap final wake laps hmade hsequel _ ih =>
      have hlap : Holds (trials ++ lap.trials) lap.done.world := Cycle.Runs.keeps hstep hmade hstart
      simpa using ih hlap

end Refresh

end WorkloadIdentity
