import WorkloadIdentity.Program

/-!
Traces of programs. `Program.Yields` and `Program.Begins` leave every answer open, so what is
proved of them holds in every surrounding; here they are taken apart along `Program.andThen`. A
run in a world has one trace, `Program.trace`, and the world after a number of effects is the one
that the first events of this trace lead to.
-/

namespace WorkloadIdentity.Program

variable {ε : Type} {Answer : ε → Type} {α β σ : Type}

theorem yields_done_iff {a b : α} {events : List (Event ε Answer)} :
    (done a : Program ε Answer α).Yields events b ↔ events = [] ∧ b = a := by
  constructor
  · rintro ⟨⟩
    exact ⟨rfl, rfl⟩
  · rintro ⟨rfl, rfl⟩
    exact .done b

theorem yields_perform_iff {effect : ε} {next : Answer effect → Program ε Answer α}
    {events : List (Event ε Answer)} {a : α} :
    (perform effect next).Yields events a ↔
      ∃ answer rest, events = ⟨effect, answer⟩ :: rest ∧ (next answer).Yields rest a := by
  constructor
  · rintro (_ | ⟨_, _, answer, h⟩)
    exact ⟨answer, _, rfl, h⟩
  · rintro ⟨answer, rest, rfl, h⟩
    exact .perform effect next answer h

theorem begins_done_iff {a : α} {events : List (Event ε Answer)} :
    (done a : Program ε Answer α).Begins events ↔ events = [] := by
  constructor
  · rintro ⟨⟩
    rfl
  · rintro rfl
    exact .nil _

theorem begins_perform_iff {effect : ε} {next : Answer effect → Program ε Answer α}
    {events : List (Event ε Answer)} :
    (perform effect next).Begins events ↔
      events = [] ∨
        ∃ answer rest, events = ⟨effect, answer⟩ :: rest ∧ (next answer).Begins rest := by
  constructor
  · rintro (_ | ⟨_, _, answer, h⟩)
    · exact Or.inl rfl
    · exact Or.inr ⟨answer, _, rfl, h⟩
  · rintro (rfl | ⟨answer, rest, rfl, h⟩)
    · exact .nil _
    · exact .perform effect next answer h

theorem Yields.begins {p : Program ε Answer α} {events : List (Event ε Answer)} {a : α}
    (h : p.Yields events a) : p.Begins events := by
  induction h with
  | done a => exact .nil _
  | perform effect next answer _ ih => exact .perform effect next answer ih

theorem Begins.of_append {p : Program ε Answer α} {first rest : List (Event ε Answer)}
    (h : p.Begins (first ++ rest)) : p.Begins first := by
  induction first generalizing p with
  | nil => exact .nil p
  | cons event first ih =>
      rcases h with _ | ⟨effect, next, answer, h⟩
      exact .perform effect next answer (ih h)

/-- The events settle the value, and nothing can follow once there is one. -/
theorem Yields.determined {p : Program ε Answer α} {events rest : List (Event ε Answer)} {a : α}
    (h : p.Yields events a) (longer : p.Begins (events ++ rest)) :
    rest = [] ∧ ∀ b, p.Yields events b → b = a := by
  induction h with
  | done a =>
      refine ⟨begins_done_iff.mp longer, ?_⟩
      intro b hb
      exact (yields_done_iff.mp hb).2
  | perform effect next answer _ ih =>
      rcases longer with _ | ⟨_, _, _, longer⟩
      refine ⟨(ih longer).1, ?_⟩
      rintro b (_ | ⟨_, _, _, hb⟩)
      exact (ih longer).2 b hb

theorem Yields.unique {p : Program ε Answer α} {events : List (Event ε Answer)} {a b : α}
    (ha : p.Yields events a) (hb : p.Yields events b) : b = a := by
  have hlonger : p.Begins (events ++ []) := by simpa using ha.begins
  exact (ha.determined hlonger).2 b hb

/-! ### One program after the other -/

theorem yields_andThen_iff {p : Program ε Answer α} {f : α → Program ε Answer β}
    {events : List (Event ε Answer)} {b : β} :
    (p.andThen f).Yields events b ↔
      ∃ first a rest, events = first ++ rest ∧ p.Yields first a ∧ (f a).Yields rest b := by
  constructor
  · intro h
    induction p generalizing events with
    | done a => exact ⟨[], a, events, rfl, .done a, h⟩
    | perform effect next ih =>
        obtain ⟨answer, later, rfl, hnext⟩ := yields_perform_iff.mp h
        obtain ⟨first, a, rest, rfl, hfirst, hrest⟩ := ih answer hnext
        exact ⟨⟨effect, answer⟩ :: first, a, rest, rfl,
          .perform effect next answer hfirst, hrest⟩
  · rintro ⟨first, a, rest, rfl, hfirst, hrest⟩
    induction hfirst with
    | done a => exact hrest
    | perform effect next answer _ ih => exact .perform effect _ answer (ih hrest)

/-- A beginning of two programs is one of the first, or goes past the end of it. -/
theorem begins_andThen_iff {p : Program ε Answer α} {f : α → Program ε Answer β}
    {events : List (Event ε Answer)} :
    (p.andThen f).Begins events ↔
      p.Begins events ∨
        ∃ first a rest, events = first ++ rest ∧ p.Yields first a ∧ (f a).Begins rest := by
  constructor
  · intro h
    induction p generalizing events with
    | done a => exact Or.inr ⟨[], a, events, rfl, .done a, h⟩
    | perform effect next ih =>
        rcases begins_perform_iff.mp h with rfl | ⟨answer, later, rfl, hnext⟩
        · exact Or.inl (.nil _)
        · rcases ih answer hnext with hp | ⟨first, a, rest, rfl, hfirst, hrest⟩
          · exact Or.inl (.perform effect next answer hp)
          · exact Or.inr ⟨⟨effect, answer⟩ :: first, a, rest, rfl,
              .perform effect next answer hfirst, hrest⟩
  · rintro (h | ⟨first, a, rest, rfl, hfirst, hrest⟩)
    · induction h with
      | nil p => exact .nil _
      | perform effect next answer _ ih => exact .perform effect _ answer ih
    · induction hfirst with
      | done a => exact hrest
      | perform effect next answer _ ih => exact .perform effect _ answer (ih hrest)

/-! ### What a program can perform -/

/-- Whatever it is answered, the program performs no effects but those with the property. -/
inductive Only (P : ε → Prop) : Program ε Answer α → Prop
  | done (a : α) : Only P (done a)
  | perform (effect : ε) (next : Answer effect → Program ε Answer α) :
      P effect → (∀ answer, Only P (next answer)) → Only P (perform effect next)

theorem Only.mono {P Q : ε → Prop} {p : Program ε Answer α} (hp : p.Only P)
    (h : ∀ effect, P effect → Q effect) : p.Only Q := by
  induction hp with
  | done a => exact .done a
  | perform effect next heffect _ ih => exact .perform effect next (h effect heffect) ih

theorem Only.andThen {P : ε → Prop} {p : Program ε Answer α} {f : α → Program ε Answer β}
    (hp : p.Only P) (hf : ∀ a, (f a).Only P) : (p.andThen f).Only P := by
  induction hp with
  | done a => exact hf a
  | perform effect next heffect _ ih => exact .perform effect _ heffect ih

theorem Only.of_begins {P : ε → Prop} {p : Program ε Answer α} (hp : p.Only P)
    {events : List (Event ε Answer)} (h : p.Begins events) :
    ∀ event ∈ events, P event.effect := by
  induction h with
  | nil p => simp
  | perform effect next answer _ ih =>
      rcases hp with _ | ⟨_, _, heffect, hnext⟩
      intro event member
      rcases List.mem_cons.mp member with rfl | member
      · exact heffect
      · exact ih (hnext answer) event member

/-! ### Runs in a world -/

/-- The effects that a program performs in a world, with the answers that it gets there. -/
def trace (handle : σ → (effect : ε) → Answer effect × σ) :
    Program ε Answer α → σ → List (Event ε Answer)
  | done _, _ => []
  | perform effect next, world =>
    ⟨effect, (handle world effect).1⟩ ::
      trace handle (next (handle world effect).1) (handle world effect).2

/-- The world that events leave behind. -/
def after (handle : σ → (effect : ε) → Answer effect × σ) (world : σ)
    (events : List (Event ε Answer)) : σ :=
  events.foldl (fun world event => (handle world event.effect).2) world

variable (handle : σ → (effect : ε) → Answer effect × σ)

theorem yields_trace (p : Program ε Answer α) (world : σ) :
    p.Yields (p.trace handle world) (p.run handle world).1 := by
  induction p generalizing world with
  | done a => exact .done a
  | perform effect next ih => exact .perform effect next _ (ih _ _)

theorem run_world (p : Program ε Answer α) (world : σ) :
    (p.run handle world).2 = after handle world (p.trace handle world) := by
  induction p generalizing world with
  | done a => rfl
  | perform effect next ih => exact ih _ _

/-- Dropping a program after some effects leaves what the first events of its trace do. -/
theorem runFor_eq_after (p : Program ε Answer α) (steps : Nat) (world : σ) :
    p.runFor handle steps world = after handle world ((p.trace handle world).take steps) := by
  induction p generalizing steps world with
  | done a => cases steps <;> rfl
  | perform effect next ih =>
      cases steps with
      | zero => rfl
      | succ steps => exact ih _ steps _

/-- In a trace every event has the answer that the world gives there. -/
theorem answer_of_trace {p : Program ε Answer α} {world : σ} {before rest : List (Event ε Answer)}
    {event : Event ε Answer} (h : p.trace handle world = before ++ event :: rest) :
    event.answer = (handle (after handle world before) event.effect).1 := by
  induction before generalizing p world with
  | nil =>
      cases p with
      | done a => cases h
      | perform effect next =>
          cases h
          rfl
  | cons first before ih =>
      cases p with
      | done a => cases h
      | perform effect next =>
          obtain ⟨rfl, htail⟩ := List.cons.inj h
          exact ih htail

end WorkloadIdentity.Program
