/-!
Programs that talk to their surroundings. A program is a tree: it is done, or it performs one
effect and goes on with a program that depends on the answer. What an effect does is not part of
the program: it can be run against a world, against answers that are given in advance, or only up
to some step, which is what becomes of it when whoever runs it gives up.
-/

namespace WorkloadIdentity

/-- A program with effects of type `ε` that are answered by values of type `Answer`. -/
inductive Program (ε : Type) (Answer : ε → Type) (α : Type) where
  | done (value : α)
  | perform (effect : ε) (next : Answer effect → Program ε Answer α)

namespace Program

variable {ε : Type} {Answer : ε → Type} {α β σ : Type}

/-- One program after the other. -/
def andThen : Program ε Answer α → (α → Program ε Answer β) → Program ε Answer β
  | done a, f => f a
  | perform effect next, f => perform effect fun answer => andThen (next answer) f

instance : Monad (Program ε Answer) where
  pure := done
  bind := andThen

/-- The program that performs one effect. -/
def call (effect : ε) : Program ε Answer (Answer effect) := perform effect done

/-- An effect and the answer that it got. -/
structure Event (ε : Type) (Answer : ε → Type) where
  effect : ε
  answer : Answer effect

/-- Runs a program to its end in a world that answers effects and changes by them. -/
def run (handle : σ → (effect : ε) → Answer effect × σ) : Program ε Answer α → σ → α × σ
  | done a, world => (a, world)
  | perform effect next, world =>
    let (answer, world) := handle world effect
    run handle (next answer) world

/-- Runs the first `steps` effects of a program and drops the rest of it. -/
def runFor (handle : σ → (effect : ε) → Answer effect × σ) :
    Nat → Program ε Answer α → σ → σ
  | _, done _, world => world
  | 0, _, world => world
  | steps + 1, perform effect next, world =>
    let (answer, world) := handle world effect
    runFor handle steps (next answer) world

/-- `program.Yields events a`: the program ends with `a` after these effects with these
answers. -/
inductive Yields : Program ε Answer α → List (Event ε Answer) → α → Prop
  | done (a : α) : Yields (done a) [] a
  | perform (effect : ε) (next : Answer effect → Program ε Answer α) (answer : Answer effect)
      {events : List (Event ε Answer)} {a : α} :
      Yields (next answer) events a →
      Yields (perform effect next) (⟨effect, answer⟩ :: events) a

/-- `program.Begins events`: the program performs these effects with these answers, and may go
on. -/
inductive Begins : Program ε Answer α → List (Event ε Answer) → Prop
  | nil (program : Program ε Answer α) : Begins program []
  | perform (effect : ε) (next : Answer effect → Program ε Answer α) (answer : Answer effect)
      {events : List (Event ε Answer)} :
      Begins (next answer) events →
      Begins (perform effect next) (⟨effect, answer⟩ :: events)

end Program

end WorkloadIdentity
