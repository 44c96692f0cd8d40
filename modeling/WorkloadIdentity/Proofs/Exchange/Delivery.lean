import Mathlib.Logic.Function.Iterate
import WorkloadIdentity.Exchange.Delivery
import WorkloadIdentity.Proofs.Duration
import WorkloadIdentity.World

/-!
Waiting for the client certificate on a timeline. What others do to the file while it is waited for
is left open: `Surroundings` have a clock and answer each effect, and may change in any way between
two of them. The looks are a fixed interval apart, there is one more of them than there may be
pauses, and the first one that finds something is the last.
-/

namespace WorkloadIdentity

/-- Surroundings with a clock. Reading a file takes no time, and a pause ends at the first
millisecond at or after the end of its duration. -/
structure Surroundings (σ : Type) where
  answer : σ → (effect : Effect) → effect.Answer × σ
  clock : σ → Instant
  clock_read : ∀ s path, clock (answer s (.file (.read path))).2 = clock s
  clock_sleep : ∀ s d, clock (answer s (.sleep d)).2 = (clock s).after d

namespace Surroundings

variable {σ α : Type}

/-- A world in which the files are always what is said of it: those that it has itself, if it is
left alone, or those that a history has at the instant that its clock shows. -/
def ofFiles (files : World → FileSystem) : Surroundings World where
  answer w effect := World.answer { w with files := files w } effect
  clock := World.clock
  clock_read _ _ := rfl
  clock_sleep w d := Nat.max_eq_right (Nat.le_add_right w.clock d.ticks)

/-- The effects of an exchange, each with the instant at which it is performed. -/
def timeline (S : Surroundings σ) :
    Program Effect Effect.Answer (Outcome α) → σ → List (Instant × Effect)
  | .done _, _ => []
  | .perform effect next, s =>
    (S.clock s, effect) :: S.timeline (next (S.answer s effect).1) (S.answer s effect).2

/-- The exchange performs these effects at these instants, and has this outcome. -/
def Runs (S : Surroundings σ) (p : Exchange α) (s : σ) (events : List (Instant × Effect))
    (outcome : Outcome α) : Prop :=
  S.timeline p s = events ∧ (Program.run S.answer p s).1 = outcome

theorem runs_ofOutcome (S : Surroundings σ) (s : σ) (outcome : Outcome α) :
    S.Runs (.ofOutcome outcome) s [] outcome :=
  ⟨rfl, rfl⟩

theorem runs_call_bind {S : Surroundings σ} {s : σ} {effect : Effect}
    {f : effect.Answer → Exchange α} {events : List (Instant × Effect)} {outcome : Outcome α}
    (h : S.Runs (f (S.answer s effect).1) (S.answer s effect).2 events outcome) :
    S.Runs (.call effect >>= f) s ((S.clock s, effect) :: events) outcome :=
  ⟨congrArg (List.cons _) h.1, h.2⟩

/-! ### Looks -/

variable (S : Surroundings σ) (path : Path) (interval : Duration) (s : σ)

/-- What is found by who looks at the file now. -/
def look : Except IoFault Bytes := (S.answer s (.file (.read path))).1

/-- What has become of the surroundings after a look and a pause. -/
def afterPause : σ := (S.answer (S.answer s (.file (.read path))).2 (.sleep interval)).2

/-- What look number `k` finds; the first one has the number 0, and there is a pause between each
two. -/
def lookAt (k : Nat) : Except IoFault Bytes := S.look path ((S.afterPause path interval)^[k] s)

theorem clock_afterPause : S.clock (S.afterPause path interval s) = (S.clock s).after interval := by
  rw [afterPause, S.clock_sleep, S.clock_read]

theorem clock_iterate_afterPause (k : Nat) :
    S.clock ((S.afterPause path interval)^[k] s) = S.clock s + k * interval.ticks := by
  induction k with
  | zero => simp
  | succ k ih =>
      rw [Function.iterate_succ_apply', clock_afterPause, ih, Instant.after, Nat.succ_mul,
        Nat.add_assoc]

/-- With a history of the files, look number `k` finds what is there `k` intervals after the
first. -/
theorem lookAt_ofFiles (history : Instant → FileSystem) (path : Path) (interval : Duration)
    (w : World) (k : Nat) :
    (ofFiles fun w => history w.clock).lookAt path interval w k =
      (history (w.clock + k * interval.ticks)).read path := by
  have hclock := (ofFiles fun w => history w.clock).clock_iterate_afterPause path interval w k
  exact congrArg (fun time => (history time).read path) hclock

end Surroundings

namespace Delivery

variable {σ : Type} {S : Surroundings σ} {path : Path} {interval waited : Duration} {s : σ}
  {more last limit most : Nat} {look : Except IoFault Bytes} {content : Bytes}

/-! ### What a look leads to -/

/-- There is no file, or an empty one. -/
def FindsNothing (look : Except IoFault Bytes) : Prop :=
  look = .ok [] ∨ ∃ fault, look = .error fault ∧ fault.isNotFound = true

theorem not_findsNothing_of_content (h : look = .ok content) (hcontent : content ≠ []) :
    ¬FindsNothing look := by
  rintro (hempty | ⟨fault, hfault, -⟩)
  · exact hcontent (Except.ok.inj (h.symm.trans hempty))
  · cases h.symm.trans hfault

theorem not_findsNothing_of_fault {fault : IoFault} (h : look = .error fault)
    (hfault : fault.isNotFound = false) : ¬FindsNothing look := by
  rintro (hempty | ⟨missing, hlook, hmissing⟩)
  · cases h.symm.trans hempty
  · cases h.symm.trans hlook
    simp [hfault] at hmissing

theorem found_of_findsNothing (h : FindsNothing look) : found look = .ok none := by
  rcases h with rfl | ⟨fault, rfl, hmissing⟩
  · rfl
  · exact if_pos hmissing

theorem found_eq_some_iff :
    found look = .ok (some content) ↔ look = .ok content ∧ content ≠ [] := by
  cases look with
  | error fault =>
      cases hmissing : fault.isNotFound <;> simp [found, hmissing]
  | ok there =>
      cases there with
      | nil =>
          simp only [found, List.isEmpty_nil, if_true]
          constructor
          · rintro ⟨⟩
          · rintro ⟨⟨⟩, hcontent⟩
            exact (hcontent rfl).elim
      | cons byte rest =>
          simp only [found, List.isEmpty_cons, Bool.false_eq_true, if_false]
          constructor
          · rintro ⟨⟩
            exact ⟨rfl, by simp⟩
          · rintro ⟨⟨⟩, _⟩
            rfl

theorem found_of_fault {fault : IoFault} (h : fault.isNotFound = false) :
    found (.error fault) = .error (.io fault) := by
  simp [found, h]

/-- A look finds nothing, or it is the last one: it finds a content, or a fault. -/
theorem look_cases (look : Except IoFault Bytes) :
    FindsNothing look ∨ (∃ content, look = .ok content ∧ content ≠ []) ∨
      ∃ fault, look = .error fault ∧ fault.isNotFound = false := by
  cases look with
  | ok content =>
      by_cases hempty : content = []
      · exact Or.inl (Or.inl (congrArg Except.ok hempty))
      · exact Or.inr (Or.inl ⟨content, rfl, hempty⟩)
  | error fault =>
      cases hmissing : fault.isNotFound with
      | true => exact Or.inl (Or.inr ⟨fault, rfl, hmissing⟩)
      | false => exact Or.inr (Or.inr ⟨fault, rfl, hmissing⟩)

/-! ### The schedule -/

/-- The looks up to number `last` and the pauses between them, from an instant on. -/
def schedule (path : Path) (interval : Duration) (start : Instant) (last : Nat) :
    List (Instant × Effect) :=
  (List.range last).flatMap (fun k =>
    [(start + k * interval.ticks, .file (.read path)),
      (start + k * interval.ticks, .sleep interval)]) ++
    [(start + last * interval.ticks, .file (.read path))]

theorem schedule_zero (start : Instant) :
    schedule path interval start 0 = [(start, .file (.read path))] := by
  simp [schedule]

theorem schedule_succ (start : Instant) (last : Nat) :
    schedule path interval start (last + 1) =
      (start, .file (.read path)) :: (start, .sleep interval) ::
        schedule path interval (start.after interval) last := by
  have hlater (k : Nat) :
      start + (k + 1) * interval.ticks = start.after interval + k * interval.ticks := by
    rw [Instant.after, Nat.succ_mul, Nat.add_comm (k * interval.ticks), Nat.add_assoc]
  simp only [schedule, List.range_succ_eq_map, List.flatMap_cons, List.flatMap_map, hlater,
    Nat.zero_mul, Nat.add_zero, List.cons_append, List.nil_append, Nat.succ_eq_add_one]

/-- How the wait ends with look number `last`: with the content of the file, with the fault that
keeps it from being read, or without either after as many pauses as there may be. -/
inductive Ends (path : Path) (most last limit : Nat) (look : Except IoFault Bytes) :
    Outcome Bytes → Prop
  | delivered {content : Bytes} : look = .ok content → content ≠ [] →
      Ends path most last limit look (.ok content)
  | unreadable {fault : IoFault} : look = .error fault → fault.isNotFound = false →
      Ends path most last limit look (.failed (.io fault))
  | gaveUp {waited : Duration} : FindsNothing look → last = limit → waited.nanos = most →
      Ends path most last limit look (.failed (.certificateNotDelivered path waited))

theorem Ends.eq_ok {outcome : Outcome Bytes} (h : Ends path most last limit look outcome)
    (hlook : look = .ok content) (hcontent : content ≠ []) : outcome = .ok content := by
  cases h with
  | delivered hother =>
      cases hlook.symm.trans hother
      rfl
  | unreadable hother => cases hlook.symm.trans hother
  | gaveUp hnothing => exact absurd hnothing (not_findsNothing_of_content hlook hcontent)

theorem Ends.last_eq_limit {outcome : Outcome Bytes} (h : Ends path most last limit look outcome)
    (hnothing : FindsNothing look) : last = limit := by
  cases h with
  | delivered hlook hcontent =>
      exact absurd hnothing (not_findsNothing_of_content hlook hcontent)
  | unreadable hlook hfault => exact absurd hnothing (not_findsNothing_of_fault hlook hfault)
  | gaveUp _ hlast => exact hlast

theorem Ends.succ {outcome : Outcome Bytes} (h : Ends path most last limit look outcome) :
    Ends path most (last + 1) (limit + 1) look outcome := by
  cases h with
  | delivered hlook hcontent => exact .delivered hlook hcontent
  | unreadable hlook hfault => exact .unreadable hlook hfault
  | gaveUp hlook hlast hwaited => exact .gaveUp hlook (congrArg (· + 1) hlast) hwaited

/-! ### The wait -/

/-- A wait is a look and what follows from it. -/
theorem runs_awaitFrom {events : List (Instant × Effect)} {outcome : Outcome Bytes}
    (h : S.Runs (Exchange.ofExcept (found (S.look path s)) >>= fun
        | some content => pure content
        | none =>
          match more with
          | 0 => Exchange.fail (.certificateNotDelivered path waited)
          | more + 1 => do
            Exchange.sleep interval
            match waited.add? interval with
            | none => Exchange.ofOutcome .overflow
            | some waited => awaitFrom path interval more waited)
      (S.answer s (.file (.read path))).2 events outcome) :
    S.Runs (awaitFrom path interval more waited) s ((S.clock s, .file (.read path)) :: events)
      outcome := by
  unfold awaitFrom
  apply Surroundings.runs_call_bind
  exact h

/-- A look that finds something is the last one. -/
theorem runs_of_find (hfinds : ¬FindsNothing (S.look path s)) :
    ∃ outcome, S.Runs (awaitFrom path interval more waited) s
        (schedule path interval (S.clock s) 0) outcome ∧
      Ends path most 0 more (S.lookAt path interval s 0) outcome := by
  rw [schedule_zero]
  rcases look_cases (S.look path s) with hnothing | ⟨content, hlook, hcontent⟩ |
    ⟨fault, hlook, hfault⟩
  · exact absurd hnothing hfinds
  · refine ⟨.ok content, runs_awaitFrom ?_, .delivered hlook hcontent⟩
    rw [hlook, found_eq_some_iff.mpr ⟨rfl, hcontent⟩]
    exact S.runs_ofOutcome _ _
  · refine ⟨.failed (.io fault), runs_awaitFrom ?_, .unreadable hlook hfault⟩
    rw [hlook, found_of_fault hfault]
    exact S.runs_ofOutcome _ _

/-- So is one that finds nothing when there are no pauses left. -/
theorem runs_of_nothing_left (hnothing : FindsNothing (S.look path s)) :
    S.Runs (awaitFrom path interval 0 waited) s (schedule path interval (S.clock s) 0)
      (.failed (.certificateNotDelivered path waited)) := by
  rw [schedule_zero]
  apply runs_awaitFrom
  rw [found_of_findsNothing hnothing]
  exact S.runs_ofOutcome _ _

/-- After any other look the wait pauses, and the pause is added to the time that has passed. -/
theorem runs_of_pause_add {events : List (Instant × Effect)} {outcome : Outcome Bytes}
    (hnothing : FindsNothing (S.look path s))
    (h : S.Runs (match waited.add? interval with
        | none => Exchange.ofOutcome .overflow
        | some waited => awaitFrom path interval more waited)
      (S.afterPause path interval s) events outcome) :
    S.Runs (awaitFrom path interval (more + 1) waited) s
      ((S.clock s, .file (.read path)) :: (S.clock s, .sleep interval) :: events) outcome := by
  apply runs_awaitFrom
  simp only [found_of_findsNothing hnothing]
  rw [← S.clock_read s path]
  exact Surroundings.runs_call_bind h

/-- If the sum is in range, the wait goes on as if it began then. -/
theorem runs_of_pause {later : Duration} {outcome : Outcome Bytes}
    (hnothing : FindsNothing (S.look path s)) (hadd : waited.add? interval = some later)
    (h : S.Runs (awaitFrom path interval more later) (S.afterPause path interval s)
      (schedule path interval ((S.clock s).after interval) last) outcome) :
    S.Runs (awaitFrom path interval (more + 1) waited) s
      (schedule path interval (S.clock s) (last + 1)) outcome := by
  rw [schedule_succ]
  apply runs_of_pause_add hnothing
  rwa [hadd]

/-- The wait from a look on, when a part of it has passed already. -/
theorem exists_runs_awaitFrom
    (hfits : waited.nanos + more * interval.nanos < word64 * nanosPerSec) :
    ∃ last ≤ more, ∃ outcome, (∀ k < last, FindsNothing (S.lookAt path interval s k)) ∧
      S.Runs (awaitFrom path interval more waited) s (schedule path interval (S.clock s) last)
        outcome ∧
      Ends path (waited.nanos + more * interval.nanos) last more (S.lookAt path interval s last)
        outcome := by
  induction more generalizing waited s with
  | zero =>
      by_cases hnothing : FindsNothing (S.look path s)
      · refine ⟨0, Nat.le_refl 0, _, nofun, runs_of_nothing_left hnothing, ?_⟩
        exact .gaveUp hnothing rfl (by omega)
      · obtain ⟨outcome, hruns, hends⟩ := runs_of_find hnothing
        exact ⟨0, Nat.le_refl 0, outcome, nofun, hruns, hends⟩
  | succ more ih =>
      by_cases hnothing : FindsNothing (S.look path s)
      · have hsum : waited.nanos + interval.nanos + more * interval.nanos =
            waited.nanos + (more + 1) * interval.nanos := by
          rw [Nat.succ_mul]
          omega
        obtain ⟨later, hlater⟩ : ∃ later : Duration, later.nanos = waited.nanos + interval.nanos :=
          ⟨⟨waited.nanos + interval.nanos, by omega⟩, rfl⟩
        rw [← hsum, ← hlater] at hfits
        obtain ⟨last, hlast, outcome, hbefore, hruns, hends⟩ :=
          ih (s := S.afterPause path interval s) hfits
        rw [hlater, hsum] at hends
        refine ⟨last + 1, Nat.succ_le_succ hlast, outcome, ?_, ?_, hends.succ⟩
        · rintro (_ | k) hk
          · exact hnothing
          · exact hbefore k (Nat.lt_of_succ_lt_succ hk)
        · rw [S.clock_afterPause] at hruns
          exact runs_of_pause hnothing (Duration.add?_eq_some_iff.mpr hlater) hruns
      · obtain ⟨outcome, hruns, hends⟩ := runs_of_find hnothing
        exact ⟨0, Nat.zero_le _, outcome, nofun, hruns, hends⟩

/-- The file is looked at once at the start and then after each pause, so look number `k` is `k`
intervals after the start, each rounded up to a millisecond. The first look that finds a content or
a fault other than a missing file is the last one and decides; with none among one more than
`limit` looks the wait ends with the last of them, after `limit` intervals. Nothing else is done,
and there is no pause behind the last look. -/
theorem await_looks_on_schedule (S : Surroundings σ) (path : Path) (limit : Nat)
    (interval : Duration) (s : σ) (hfits : limit * interval.nanos < word64 * nanosPerSec) :
    ∃ last ≤ limit, ∃ outcome, (∀ k < last, FindsNothing (S.lookAt path interval s k)) ∧
      S.Runs (await path limit interval) s (schedule path interval (S.clock s) last) outcome ∧
      Ends path (limit * interval.nanos) last limit (S.lookAt path interval s last) outcome := by
  have hzero : Duration.zero.nanos + limit * interval.nanos = limit * interval.nanos :=
    Nat.zero_add _
  rw [← hzero] at hfits ⊢
  exact exists_runs_awaitFrom hfits

/-- A certificate whose file is created in the fifth second and written in the tenth. -/
def slowDelivery (time : Instant) : FileSystem :=
  if time < 5000 then .empty
  else ⟨[(⟨false, ["cert.pem"]⟩, .file 0)], [⟨if time < 10000 then [] else [65, 66], 0o644⟩]⟩

/-- With looks every four seconds it is there at the fourth one. -/
theorem await_looks_on_schedule_slow :
    5 * (Duration.ofSecs 4).nanos < word64 * nanosPerSec ∧
      (Surroundings.ofFiles fun w => slowDelivery w.clock).Runs
        (await "cert.pem" 5 (.ofSecs 4)) (World.quiet 0 .empty (.forPath none))
        (schedule "cert.pem" (.ofSecs 4) 0 3) (.ok [65, 66]) := by
  have hfits : 5 * (Duration.ofSecs 4).nanos < word64 * nanosPerSec := by decide
  obtain ⟨last, hlast, outcome, hbefore, hruns, hends⟩ :=
    await_looks_on_schedule (Surroundings.ofFiles fun w => slowDelivery w.clock) "cert.pem" 5
      (.ofSecs 4) (World.quiet 0 .empty (.forPath none)) hfits
  simp only [Surroundings.lookAt_ofFiles] at hbefore hends
  have hfound : (slowDelivery 12000).read "cert.pem" = .ok [65, 66] := by decide +kernel
  have hnothing (k : Nat) (hk : k < 3) :
      FindsNothing ((slowDelivery (0 + k * (Duration.ofSecs 4).ticks)).read "cert.pem") := by
    match k with
    | 0 => exact Or.inr ⟨.system .noEntry, by decide +kernel, rfl⟩
    | 1 => exact Or.inr ⟨.system .noEntry, by decide +kernel, rfl⟩
    | 2 => exact Or.inl (by decide +kernel)
  obtain rfl : last = 3 := by
    rcases Nat.lt_trichotomy last 3 with hearly | hlast | hlate
    · exact absurd (hends.last_eq_limit (hnothing last hearly)) (by omega)
    · exact hlast
    · exact absurd (hbefore 3 hlate) (not_findsNothing_of_content hfound (by decide))
  obtain rfl : outcome = .ok [65, 66] := hends.eq_ok hfound (by decide)
  exact ⟨hfits, hruns⟩

/-! ### Waits that add up more time than a duration can hold -/

theorem Ends.ne_overflow {outcome : Outcome Bytes} (h : Ends path most last limit look outcome) :
    outcome ≠ .overflow := by
  cases h <;> exact nofun

theorem run_of_find (hfinds : ¬FindsNothing (S.look path s)) :
    (Program.run S.answer (awaitFrom path interval more waited) s).1 ≠ .overflow := by
  obtain ⟨outcome, hruns, hends⟩ := @runs_of_find _ S path interval waited s more 0 hfinds
  rw [hruns.2]
  exact hends.ne_overflow

theorem run_of_pause (hnothing : FindsNothing (S.look path s)) :
    (Program.run S.answer (awaitFrom path interval (more + 1) waited) s).1 =
      (Program.run S.answer
        (match waited.add? interval with
          | none => Exchange.ofOutcome .overflow
          | some waited => awaitFrom path interval more waited)
        (S.afterPause path interval s)).1 :=
  (runs_of_pause_add hnothing ⟨rfl, rfl⟩).2

/-- The pauses are added to the time that has passed, and the first sum that is out of range is the
end of the wait. -/
theorem awaitFrom_overflow_iff :
    (Program.run S.answer (awaitFrom path interval more waited) s).1 = .overflow ↔
      ∃ count ≤ more, word64 * nanosPerSec ≤ waited.nanos + count * interval.nanos ∧
        ∀ k < count, FindsNothing (S.lookAt path interval s k) := by
  -- The time that has passed is in range by itself.
  have hpositive {time : Duration} {count : Nat}
      (hover : word64 * nanosPerSec ≤ time.nanos + count * interval.nanos) : 0 < count := by
    have hrange := time.nanos_lt
    rcases Nat.eq_zero_or_pos count with rfl | hcount
    · omega
    · exact hcount
  induction more generalizing waited s with
  | zero =>
      apply iff_of_false
      · by_cases hnothing : FindsNothing (S.look path s)
        · rw [(runs_of_nothing_left hnothing).2]
          exact nofun
        · exact run_of_find hnothing
      · rintro ⟨count, hcount, hover, -⟩
        exact Nat.not_lt_of_le hcount (hpositive hover)
  | succ more ih =>
      by_cases hnothing : FindsNothing (S.look path s)
      · rw [run_of_pause hnothing]
        cases hadd : waited.add? interval with
        | none =>
            refine iff_of_true rfl ⟨1, Nat.le_add_left 1 more, ?_, ?_⟩
            · rw [Nat.one_mul]
              exact Duration.add?_eq_none_iff.mp hadd
            · intro k hk
              rwa [Nat.lt_one_iff.mp hk]
        | some later =>
            have hlater (count : Nat) : later.nanos + count * interval.nanos =
                waited.nanos + (count + 1) * interval.nanos := by
              rw [Duration.add?_eq_some_iff.mp hadd, Nat.succ_mul]
              omega
            refine ih.trans ?_
            constructor
            · rintro ⟨count, hcount, hover, hbefore⟩
              refine ⟨count + 1, Nat.succ_le_succ hcount, hlater count ▸ hover, ?_⟩
              rintro (_ | k) hk
              · exact hnothing
              · exact hbefore k (Nat.lt_of_succ_lt_succ hk)
            · rintro ⟨count, hcount, hover, hbefore⟩
              obtain ⟨count, rfl⟩ := Nat.exists_eq_succ_of_ne_zero (hpositive hover).ne'
              exact ⟨count, Nat.le_of_succ_le_succ hcount, (hlater count).symm ▸ hover,
                fun k hk => hbefore (k + 1) (Nat.succ_lt_succ hk)⟩
      · apply iff_of_false (run_of_find hnothing)
        rintro ⟨count, -, hover, hbefore⟩
        exact hnothing (hbefore 0 (hpositive hover))

/-- A wait stops for a sum out of range if and only if there may be so many pauses, and none of the
looks before them finds anything. -/
theorem await_overflow_iff :
    (Program.run S.answer (await path limit interval) s).1 = .overflow ↔
      ∃ count ≤ limit, word64 * nanosPerSec ≤ count * interval.nanos ∧
        ∀ k < count, FindsNothing (S.lookAt path interval s k) := by
  refine awaitFrom_overflow_iff.trans ?_
  simp only [Duration.zero, Nat.zero_add]

end Delivery

end WorkloadIdentity
