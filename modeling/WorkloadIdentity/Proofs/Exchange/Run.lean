import WorkloadIdentity.Proofs.Exchange.Trace
import WorkloadIdentity.World

/-!
Exchanges in a world. The effects that an exchange performs there, with the answers that the world
gives, are one of its traces, and they settle what becomes of the world.
-/

namespace WorkloadIdentity

namespace World

/-- The world that events leave behind. -/
def afterEvents (w : World) (events : List Exchange.Event) : World :=
  Program.after World.answer w events

@[simp] theorem afterEvents_nil (w : World) : w.afterEvents [] = w := rfl

@[simp] theorem afterEvents_cons (w : World) (event : Exchange.Event)
    (rest : List Exchange.Event) :
    w.afterEvents (event :: rest) = (w.answer event.effect).2.afterEvents rest := rfl

@[simp] theorem afterEvents_append (w : World) (first rest : List Exchange.Event) :
    w.afterEvents (first ++ rest) = (w.afterEvents first).afterEvents rest := by
  simp [afterEvents, Program.after]

end World

namespace Exchange

variable {α : Type}

/-- The effects that an exchange performs in a world, with their answers. -/
def eventsIn (p : Exchange α) (w : World) : List Event := Program.trace World.answer p w

theorem yields_eventsIn (p : Exchange α) (w : World) :
    p.Yields (p.eventsIn w) (p.run w).1 :=
  Program.yields_trace World.answer p w

theorem run_world (p : Exchange α) (w : World) :
    (p.run w).2 = w.afterEvents (p.eventsIn w) :=
  Program.run_world World.answer p w

theorem runFor_eq_afterEvents (p : Exchange α) (steps : Nat) (w : World) :
    Program.runFor World.answer steps p w = w.afterEvents ((p.eventsIn w).take steps) :=
  Program.runFor_eq_after World.answer p steps w

/-- An exchange that is dropped has performed its first effects, and time has gone on. It has
performed all of them only if it had ended by then. -/
theorem droppedAt_cases (limit : Instant) (p : Exchange α) (w : World) :
    ∃ before rest replies answered, p.eventsIn w = before ++ rest ∧
      droppedAt limit p w =
        { (w.afterEvents before).advance limit with replies, answered } ∧
      (rest = [] → p.eventsIn w = [] ∨ (p.run w).2.clock ≤ limit) := by
  induction p generalizing w with
  | done outcome =>
      exact ⟨[], [], _, _, rfl, rfl, fun _ => Or.inl rfl⟩
  | perform effect next ih =>
      by_cases hlimit : limit < (w.answer effect).2.clock
      · -- The limit comes before the first effect ends, so none has been performed.
        refine ⟨[], eventsIn (Program.perform effect next) w, (w.answer effect).2.replies,
          (w.answer effect).2.answered, rfl, if_pos hlimit, ?_⟩
        intro hnil
        exact Or.inl hnil
      · obtain ⟨before, rest, replies, answered, hevents, hdropped, hended⟩ :=
          ih (w.answer effect).1 (w.answer effect).2
        refine ⟨⟨effect, (w.answer effect).1⟩ :: before, rest, replies, answered,
          congrArg (List.cons _) hevents, (if_neg hlimit).trans hdropped, ?_⟩
        intro hnil
        right
        rcases hended hnil with hnone | hclock
        · have hdone := run_world (next (w.answer effect).1) (w.answer effect).2
          rw [hnone] at hdone
          show ((run (next (w.answer effect).1) (w.answer effect).2).2).clock ≤ limit
          rw [hdone]
          exact Nat.le_of_not_lt hlimit
        · exact hclock

end Exchange

end WorkloadIdentity
