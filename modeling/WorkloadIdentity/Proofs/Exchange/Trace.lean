import WorkloadIdentity.Exchange.Effect
import WorkloadIdentity.Proofs.Program.Trace

/-!
Traces of exchanges. An exchange ends in an outcome, so what follows a step is only performed
where the step has given a value. The last part takes apart the exchange that both begins and
ends with the broker: asking for an access token and handing it over.
-/

namespace WorkloadIdentity

/-- The effect hands an access token over. -/
def Effect.isStore : Effect → Bool
  | .store _ => true
  | _ => false

namespace Exchange

variable {α β : Type}

/-- An effect of an exchange with its answer. -/
abbrev Event := Program.Event Effect Effect.Answer

/-- The exchange ends with this outcome after these events. -/
abbrev Yields (p : Exchange α) (events : List Event) (outcome : Outcome α) : Prop :=
  Program.Yields p events outcome

/-- The exchange performs these events, and may go on. -/
abbrev Begins (p : Exchange α) (events : List Event) : Prop := Program.Begins p events

/-- The exchange performs no effects but those with the property. -/
abbrev Only (P : Effect → Prop) (p : Exchange α) : Prop := Program.Only P p

/-- An event among those of two parts belongs to the first or to the second. -/
theorem event_of_append {before after first rest : List Event} {event : Event}
    (h : before ++ event :: after = first ++ rest) :
    (∃ tail, first = before ++ event :: tail) ∨
      ∃ middle, before = first ++ middle ∧ rest = middle ++ event :: after := by
  rcases List.append_eq_append_iff.mp h with ⟨middle, rfl, hafter⟩ | ⟨middle, hbefore, hrest⟩
  · rcases List.cons_eq_append_iff.mp hafter with ⟨rfl, rfl⟩ | ⟨tail, rfl, _⟩
    · exact Or.inr ⟨[], by simp, rfl⟩
    · exact Or.inl ⟨tail, rfl⟩
  · exact Or.inr ⟨middle, hbefore, hrest⟩

theorem yields_ofOutcome_iff {outcome result : Outcome α} {events : List Event} :
    (ofOutcome outcome).Yields events result ↔ events = [] ∧ result = outcome :=
  Program.yields_done_iff

theorem begins_ofOutcome_iff {outcome : Outcome α} {events : List Event} :
    (ofOutcome outcome).Begins events ↔ events = [] :=
  Program.begins_done_iff

theorem yields_call_iff {effect : Effect} {events : List Event}
    {outcome : Outcome effect.Answer} :
    (call effect).Yields events outcome ↔
      ∃ answer, events = [⟨effect, answer⟩] ∧ outcome = .ok answer := by
  constructor
  · intro h
    obtain ⟨answer, rest, rfl, hrest⟩ := Program.yields_perform_iff.mp h
    obtain ⟨rfl, rfl⟩ := Program.yields_done_iff.mp hrest
    exact ⟨answer, rfl, rfl⟩
  · rintro ⟨answer, rfl, rfl⟩
    exact .perform effect _ answer (.done _)

theorem begins_call_iff {effect : Effect} {events : List Event} :
    (call effect).Begins events ↔ events = [] ∨ ∃ answer, events = [⟨effect, answer⟩] := by
  constructor
  · intro h
    rcases Program.begins_perform_iff.mp h with rfl | ⟨answer, rest, rfl, hrest⟩
    · exact Or.inl rfl
    · obtain rfl := Program.begins_done_iff.mp hrest
      exact Or.inr ⟨answer, rfl⟩
  · rintro (rfl | ⟨answer, rfl⟩)
    · exact .nil _
    · exact .perform effect _ answer (.nil _)

theorem yields_bind_iff {p : Exchange α} {f : α → Exchange β} {events : List Event}
    {outcome : Outcome β} :
    (p >>= f).Yields events outcome ↔
      (∃ first a rest, events = first ++ rest ∧ p.Yields first (.ok a) ∧
        (f a).Yields rest outcome) ∨
      (∃ failure, outcome = .failed failure ∧ p.Yields events (.failed failure)) ∨
      (outcome = .overflow ∧ p.Yields events .overflow) := by
  constructor
  · intro h
    obtain ⟨first, result, rest, rfl, hfirst, hrest⟩ := Program.yields_andThen_iff.mp h
    cases result with
    | ok a => exact Or.inl ⟨first, a, rest, rfl, hfirst, hrest⟩
    | failed failure =>
        obtain ⟨rfl, rfl⟩ := yields_ofOutcome_iff.mp hrest
        exact Or.inr (Or.inl ⟨failure, rfl, by simpa using hfirst⟩)
    | overflow =>
        obtain ⟨rfl, rfl⟩ := yields_ofOutcome_iff.mp hrest
        exact Or.inr (Or.inr ⟨rfl, by simpa using hfirst⟩)
  · intro h
    apply Program.yields_andThen_iff.mpr
    rcases h with ⟨first, a, rest, rfl, hfirst, hrest⟩ | ⟨failure, rfl, h⟩ | ⟨rfl, h⟩
    · exact ⟨first, .ok a, rest, rfl, hfirst, hrest⟩
    · exact ⟨events, .failed failure, [], by simp, h, .done _⟩
    · exact ⟨events, .overflow, [], by simp, h, .done _⟩

theorem yields_bind_ok_iff {p : Exchange α} {f : α → Exchange β} {events : List Event} {b : β} :
    (p >>= f).Yields events (.ok b) ↔
      ∃ first a rest, events = first ++ rest ∧ p.Yields first (.ok a) ∧
        (f a).Yields rest (.ok b) := by
  rw [yields_bind_iff]
  simp

theorem begins_bind_iff {p : Exchange α} {f : α → Exchange β} {events : List Event} :
    (p >>= f).Begins events ↔
      p.Begins events ∨
        ∃ first a rest, events = first ++ rest ∧ p.Yields first (.ok a) ∧ (f a).Begins rest := by
  constructor
  · intro h
    rcases Program.begins_andThen_iff.mp h with hp | ⟨first, result, rest, rfl, hfirst, hrest⟩
    · exact Or.inl hp
    · cases result with
      | ok a => exact Or.inr ⟨first, a, rest, rfl, hfirst, hrest⟩
      | failed failure =>
          obtain rfl := begins_ofOutcome_iff.mp hrest
          exact Or.inl (by simpa using hfirst.begins)
      | overflow =>
          obtain rfl := begins_ofOutcome_iff.mp hrest
          exact Or.inl (by simpa using hfirst.begins)
  · intro h
    apply Program.begins_andThen_iff.mpr
    rcases h with h | ⟨first, a, rest, rfl, hfirst, hrest⟩
    · exact Or.inl h
    · exact Or.inr ⟨first, .ok a, rest, rfl, hfirst, hrest⟩

theorem yields_call_bind_iff {effect : Effect} {f : effect.Answer → Exchange β}
    {events : List Event} {outcome : Outcome β} :
    (call effect >>= f).Yields events outcome ↔
      ∃ answer rest, events = ⟨effect, answer⟩ :: rest ∧ (f answer).Yields rest outcome :=
  Program.yields_perform_iff

theorem begins_call_bind_iff {effect : Effect} {f : effect.Answer → Exchange β}
    {events : List Event} :
    (call effect >>= f).Begins events ↔
      events = [] ∨
        ∃ answer rest, events = ⟨effect, answer⟩ :: rest ∧ (f answer).Begins rest :=
  Program.begins_perform_iff

/-- An exchange and what follows it, however it ends. -/
def followedBy (p : Exchange α) (f : Outcome α → Exchange β) : Exchange β := Program.andThen p f

theorem yields_followedBy_iff {p : Exchange α} {f : Outcome α → Exchange β}
    {events : List Event} {outcome : Outcome β} :
    (p.followedBy f).Yields events outcome ↔
      ∃ first middle rest, events = first ++ rest ∧ p.Yields first middle ∧
        (f middle).Yields rest outcome :=
  Program.yields_andThen_iff

theorem begins_followedBy_iff {p : Exchange α} {f : Outcome α → Exchange β}
    {events : List Event} :
    (p.followedBy f).Begins events ↔
      p.Begins events ∨
        ∃ first middle rest, events = first ++ rest ∧ p.Yields first middle ∧
          (f middle).Begins rest :=
  Program.begins_andThen_iff

theorem settled_bind (p : Exchange α) (f : Except Failure α → Exchange β) :
    (settled p >>= f) =
      p.followedBy fun
        | .ok a => f (.ok a)
        | .failed failure => f (.error failure)
        | .overflow => ofOutcome .overflow := by
  induction p with
  | done outcome => cases outcome <;> rfl
  | perform effect next ih => exact congrArg (Program.perform effect) (funext ih)

theorem Only.bind {P : Effect → Prop} {p : Exchange α} {f : α → Exchange β} (hp : p.Only P)
    (hf : ∀ a, (f a).Only P) : (p >>= f).Only P := by
  apply Program.Only.andThen hp
  intro result
  cases result with
  | ok a => exact hf a
  | failed failure => exact .done _
  | overflow => exact .done _

theorem Only.call {P : Effect → Prop} {effect : Effect} (h : P effect) :
    (call effect).Only P :=
  .perform effect _ h fun _ => .done _

theorem Only.ofOutcome {P : Effect → Prop} (outcome : Outcome α) :
    (ofOutcome outcome).Only P :=
  .done outcome

/-! ### Asking and handing over -/

theorem token_eq_ok_iff {answer : Except TransportFault Response} {content : Bytes} :
    token answer = .ok content ↔
      ∃ response, answer = .ok response ∧ response.isSuccess = true ∧
        response.body = some content := by
  rcases answer with fault | ⟨status, _ | body⟩
  · simp [token]
  · simp [token, Response.content]
  · by_cases hsuccess : (Response.mk status (some body)).isSuccess = true
    · simp [token, Response.content, hsuccess]
    · simp [token, Response.content, hsuccess]

theorem response_yields_iff {client : Client} {request : Except TransportFault Request}
    {events : List Event} {outcome : Outcome (Except TransportFault Response)} :
    (response client request).Yields events outcome ↔
      (∃ built answer, request = .ok built ∧ events = [⟨.send client built, answer⟩] ∧
        outcome = .ok answer) ∨
      (∃ fault, request = .error fault ∧ events = [] ∧ outcome = .ok (.error fault)) := by
  cases request with
  | ok built =>
      constructor
      · intro h
        obtain ⟨answer, rfl, rfl⟩ := yields_call_iff.mp h
        exact Or.inl ⟨built, answer, rfl, rfl, rfl⟩
      · rintro (⟨_, answer, hbuilt, rfl, rfl⟩ | ⟨_, hfault, _⟩)
        · cases hbuilt
          exact yields_call_iff.mpr ⟨answer, rfl, rfl⟩
        · cases hfault
  | error fault =>
      constructor
      · intro h
        obtain ⟨rfl, rfl⟩ := yields_ofOutcome_iff.mp h
        exact Or.inr ⟨fault, rfl, rfl, rfl⟩
      · rintro (⟨_, _, hbuilt, _⟩ | ⟨_, hfault, rfl, rfl⟩)
        · cases hbuilt
        · cases hfault
          exact yields_ofOutcome_iff.mpr ⟨rfl, rfl⟩

/-- How asking for an access token ends: there is no such request, the broker gives no token, or
the token that it gives is handed over, which may fail. -/
inductive Obtained (client : Client) (request : Except TransportFault Request) :
    List Event → Outcome Unit → Prop
  | notBuilt {fault : TransportFault} : request = .error fault →
      Obtained client request [] (.failed (.transport fault))
  | refused {built : Request} {answer : Except TransportFault Response} {failure : Failure} :
      request = .ok built → token answer = .error failure →
      Obtained client request [⟨.send client built, answer⟩] (.failed failure)
  | handedOver {built : Request} {answer : Except TransportFault Response} {content : Bytes}
      {stored : Except Failure Unit} :
      request = .ok built → token answer = .ok content →
      Obtained client request
        [⟨.send client built, answer⟩, ⟨.store content, stored⟩] (.ofExcept stored)

private theorem store_yields_iff {content : Bytes} {events : List Event} {outcome : Outcome Unit} :
    (store content).Yields events outcome ↔
      ∃ stored, events = [⟨.store content, stored⟩] ∧ outcome = .ofExcept stored := by
  constructor
  · intro h
    rcases yields_bind_iff.mp h with ⟨_, _, _, rfl, hfirst, hrest⟩ | ⟨_, _, hbad⟩ | ⟨_, hbad⟩
    · obtain ⟨stored, rfl, hstored⟩ := yields_call_iff.mp hfirst
      cases hstored
      obtain ⟨rfl, rfl⟩ := yields_ofOutcome_iff.mp hrest
      exact ⟨_, rfl, rfl⟩
    · obtain ⟨_, _, hbad⟩ := yields_call_iff.mp hbad
      cases hbad
    · obtain ⟨_, _, hbad⟩ := yields_call_iff.mp hbad
      cases hbad
  · rintro ⟨stored, rfl, rfl⟩
    exact yields_bind_iff.mpr (Or.inl ⟨[⟨.store content, stored⟩], stored, [], rfl,
      yields_call_iff.mpr ⟨stored, rfl, rfl⟩, yields_ofOutcome_iff.mpr ⟨rfl, rfl⟩⟩)

private theorem store_begins {content : Bytes} {events : List Event}
    (h : (store content).Begins events) :
    events = [] ∨ ∃ stored, events = [⟨.store content, stored⟩] := by
  rcases begins_bind_iff.mp h with hcall | ⟨first, stored, rest, rfl, hfirst, hrest⟩
  · exact begins_call_iff.mp hcall
  · obtain ⟨answer, rfl, _⟩ := yields_call_iff.mp hfirst
    obtain rfl := begins_ofOutcome_iff.mp hrest
    exact Or.inr ⟨answer, rfl⟩

theorem ofExcept_bind (result : Except Failure α) (f : α → Exchange β) :
    (ofExcept result >>= f) =
      match result with
      | .ok a => f a
      | .error failure => fail failure := by
  cases result <;> rfl

private theorem obtain_built_yields {client : Client} {built : Request} {events : List Event}
    {outcome : Outcome Unit} :
    (obtain client (.ok built)).Yields events outcome ↔
      ∃ (answer : Except TransportFault Response) (rest : List Event),
        events = ⟨.send client built, answer⟩ :: rest ∧
          (ofExcept (token answer) >>= store).Yields rest outcome :=
  Program.yields_perform_iff

private theorem obtain_built_begins {client : Client} {built : Request} {events : List Event} :
    (obtain client (.ok built)).Begins events ↔
      events = [] ∨ ∃ (answer : Except TransportFault Response) (rest : List Event),
        events = ⟨.send client built, answer⟩ :: rest ∧
          (ofExcept (token answer) >>= store).Begins rest :=
  Program.begins_perform_iff

theorem obtain_yields_iff {client : Client} {request : Except TransportFault Request}
    {events : List Event} {outcome : Outcome Unit} :
    (obtain client request).Yields events outcome ↔ Obtained client request events outcome := by
  constructor
  · intro h
    cases request with
    | error fault =>
        obtain ⟨rfl, rfl⟩ := yields_ofOutcome_iff.mp h
        exact .notBuilt rfl
    | ok built =>
        obtain ⟨answer, rest, rfl, hrest⟩ := obtain_built_yields.mp h
        rw [ofExcept_bind] at hrest
        cases htoken : token answer with
        | error failure =>
            rw [htoken] at hrest
            obtain ⟨rfl, rfl⟩ := yields_ofOutcome_iff.mp hrest
            exact .refused rfl htoken
        | ok content =>
            rw [htoken] at hrest
            obtain ⟨stored, rfl, rfl⟩ := store_yields_iff.mp hrest
            exact .handedOver rfl htoken
  · intro h
    cases h with
    | notBuilt hfault =>
        subst hfault
        exact yields_ofOutcome_iff.mpr ⟨rfl, rfl⟩
    | refused hbuilt htoken =>
        subst hbuilt
        refine obtain_built_yields.mpr ⟨_, _, rfl, ?_⟩
        rw [ofExcept_bind, htoken]
        exact yields_ofOutcome_iff.mpr ⟨rfl, rfl⟩
    | handedOver hbuilt htoken =>
        subst hbuilt
        refine obtain_built_yields.mpr ⟨_, _, rfl, ?_⟩
        rw [ofExcept_bind, htoken]
        exact store_yields_iff.mpr ⟨_, rfl, rfl⟩

/-- Asking has not begun, has the broker's answer, or has come to its end. -/
theorem obtain_begins {client : Client} {request : Except TransportFault Request}
    {events : List Event} (h : (obtain client request).Begins events) :
    events = [] ∨
      (∃ built answer, request = .ok built ∧ events = [⟨.send client built, answer⟩]) ∨
      ∃ outcome, Obtained client request events outcome := by
  cases request with
  | error fault => exact Or.inl (begins_ofOutcome_iff.mp h)
  | ok built =>
      rcases obtain_built_begins.mp h with rfl | ⟨answer, rest, rfl, hrest⟩
      · exact Or.inl rfl
      · rw [ofExcept_bind] at hrest
        cases htoken : token answer with
        | error failure =>
            rw [htoken] at hrest
            obtain rfl := begins_ofOutcome_iff.mp hrest
            exact Or.inr (Or.inl ⟨built, answer, rfl, rfl⟩)
        | ok content =>
            rw [htoken] at hrest
            rcases store_begins hrest with rfl | ⟨stored, rfl⟩
            · exact Or.inr (Or.inl ⟨built, answer, rfl, rfl⟩)
            · exact Or.inr (Or.inr ⟨_, .handedOver rfl htoken⟩)

end Exchange

end WorkloadIdentity
