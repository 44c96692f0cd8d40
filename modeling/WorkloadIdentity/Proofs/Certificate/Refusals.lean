import WorkloadIdentity.Proofs.Certificate.Sessions

/-!
What becomes of a certificate that the broker has refused as expired. Within one authentication it
is not presented again. The second refusal of an authentication ends it with the session still
kept, though; so over several authentications a refused certificate stays away exactly where each
authentication that follows such an end begins with a login.
-/

namespace WorkloadIdentity

/-- The answer refuses the certificate as expired. -/
def Exchange.isRefusal (answer : Except TransportFault Response) : Bool :=
  match token answer with
  | .ok _ => false
  | .error failure => failure.isCertificateExpired

namespace CertificateAuthenticator

open Exchange (Event keptAfter)

variable {a : CertificateAuthenticator}

/-- The event is a request for the token whose answer refuses the certificate as expired. -/
def refuses (a : CertificateAuthenticator) : Event → Bool
  | ⟨.send client request, answer⟩ =>
    a.asksForToken (.send client request) && Exchange.isRefusal answer
  | _ => false

/-- There has been a refusal, and no login has succeeded since. -/
def Refused (a : CertificateAuthenticator) (events : List Event) : Prop :=
  ∃ before refusal after, events = before ++ refusal :: after ∧ a.refuses refusal = true ∧
    ∀ earlier login later session, after = earlier ++ login ++ later →
      ¬ a.login.Yields login (.ok session)

/-- After a refusal the token is not asked for until a login has succeeded. -/
def NeverPresentsRefused (a : CertificateAuthenticator) (events : List Event) : Prop :=
  ∀ before event after, events = before ++ event :: after →
    a.asksForToken event.effect = true → ¬ a.Refused before

theorem asksForToken_of_refuses {event : Event} (h : a.refuses event = true) :
    a.asksForToken event.effect = true := by
  obtain ⟨effect, answer⟩ := event
  cases effect with
  | send client request => exact (Bool.and_eq_true_iff.mp h).1
  | _ => cases h

theorem not_refused_nil : ¬ a.Refused [] := by
  rintro ⟨before, refusal, after, hevents, _⟩
  simp at hevents

/-- A login that has succeeded last does away with all refusals. -/
theorem not_refused_of_login {events login : List Event} {session : Session}
    (h : a.login.Yields login (.ok session)) : ¬ a.Refused (events ++ login) := by
  rintro ⟨before, refusal, after, hevents, hrefuses, hsince⟩
  rcases Exchange.event_of_append hevents.symm with ⟨tail, rfl⟩ | ⟨middle, rfl, rfl⟩
  · have hafter : after = tail ++ login ++ [] := by simpa using hevents.symm
    exact hsince tail login [] session hafter h
  · have hasks := login_asks_nothing h.begins refusal (by simp)
    rw [asksForToken_of_refuses hrefuses] at hasks
    cases hasks

/-- A refusal that stands has come with the first part or belongs to the second. -/
theorem refused_append {first rest : List Event} (h : a.Refused (first ++ rest)) :
    a.Refused first ∨
      ∃ middle refusal after, rest = middle ++ refusal :: after ∧ a.refuses refusal = true := by
  obtain ⟨before, refusal, after, hevents, hrefuses, hsince⟩ := h
  rcases Exchange.event_of_append hevents.symm with ⟨tail, rfl⟩ | ⟨middle, rfl, rfl⟩
  · refine Or.inl ⟨before, refusal, tail, rfl, hrefuses, ?_⟩
    rintro earlier login later session rfl
    refine hsince earlier login (later ++ rest) session ?_
    simpa using hevents.symm
  · exact Or.inr ⟨middle, refusal, after, rfl, hrefuses⟩

/-! ### One authentication -/

/-- A request for the token in an authentication that follows other events. Unless it comes right
after a login, the authentication has only looked at the clock so far. -/
theorem refused_before_request {kept : Option Session} {events before after : List Event}
    {event : Event} (h : (a.authenticate kept).Begins (before ++ event :: after))
    (hasks : a.asksForToken event.effect = true) (hrefused : a.Refused (events ++ before)) :
    kept.isSome = true ∧ (∃ now, before = [⟨.now, now⟩]) ∧ a.Refused events := by
  obtain ⟨effect, answer⟩ := event
  obtain ⟨client, request, rfl, hrequest⟩ := asksForToken_iff.mp hasks
  obtain ⟨session, _, horigin⟩ := presented_session h hrequest
  rcases horigin with ⟨rfl, now, rfl, _⟩ | ⟨earlier, login, rfl, hlogin⟩
  · refine ⟨rfl, ⟨now, rfl⟩, ?_⟩
    rcases refused_append hrefused with hevents | ⟨middle, refusal, after', hnow, hrefuses⟩
    · exact hevents
    · have hmember : refusal ∈ [(⟨.now, now⟩ : Event)] := by simp [hnow]
      cases List.mem_singleton.mp hmember
      cases hrefuses
  · rw [← List.append_assoc] at hrefused
    exact (not_refused_of_login hlogin hrefused).elim

/-- Within one authentication no refused certificate is presented again, wherever it is stopped. -/
theorem authenticate_never_presents_refused {kept : Option Session} {events : List Event}
    (h : (a.authenticate kept).Begins events) : a.NeverPresentsRefused events := by
  rintro before event after rfl hasks hrefused
  have hrefused' : a.Refused ([] ++ before) := hrefused
  exact not_refused_nil (refused_before_request h hasks hrefused').2.2

/-- After a refusal comes a login, or nothing. -/
theorem after_refusal {kept : Option Session} {before after : List Event} {refusal : Event}
    (h : (a.authenticate kept).Begins (before ++ refusal :: after))
    (hrefuses : a.refuses refusal = true) :
    after = [] ∨ ∃ rest, after = ⟨.keep none, ()⟩ :: rest := by
  obtain ⟨session, tail, later, _, hobtain, rfl, hlater⟩ :=
    request_at h (asksForToken_of_refuses hrefuses)
  have htail : tail = [] := by
    rcases Exchange.obtain_begins hobtain with hnil | ⟨built, reply, _, hsent⟩ |
      ⟨outcome, hobtained⟩
    · cases hnil
    · exact (List.cons.inj hsent).2
    · cases hobtained with
      | refused _ _ => rfl
      | handedOver _ htoken =>
          have hrefusal := (Bool.and_eq_true_iff.mp hrefuses).2
          simp [Exchange.isRefusal, htoken] at hrefusal
  rw [htail]
  exact hlater

theorem request_of_refuses {refusal : Event} (h : a.refuses refusal = true) :
    ∃ request, a.tokenRequest = .ok request := by
  obtain ⟨_, request, _, hrequest⟩ := asksForToken_iff.mp (asksForToken_of_refuses h)
  exact ⟨request, hrequest⟩

/-! ### Several authentications -/

/-- Whole authentications from no session on, one after the other. -/
inductive Authentications (a : CertificateAuthenticator) :
    List (List Event) → Option Session → Prop
  | start : Authentications a [] none
  | next {calls : List (List Event)} {kept : Option Session} {events : List Event}
      {outcome : Outcome Unit} :
      Authentications a calls kept → (a.authenticate kept).Yields events outcome →
      Authentications a (calls ++ [events]) (keptAfter kept events)

/-- The last event refuses the certificate. -/
def EndsRefused (a : CertificateAuthenticator) (events : List Event) : Prop :=
  ∃ before refusal, events = before ++ [refusal] ∧ a.refuses refusal = true

theorem endsRefused_of_getLast? {events : List Event}
    (h : events.getLast?.any a.refuses = true) : a.EndsRefused events := by
  rcases List.eq_nil_or_concat events with rfl | ⟨before, refusal, rfl⟩
  · cases h
  · exact ⟨before, refusal, by simp, by simpa using h⟩

/-- An authentication that finds a session begins with a login all the same. -/
def BeginsWithLogin (events : List Event) : Prop :=
  ∃ now rest, events = ⟨.now, now⟩ :: ⟨.keep none, ()⟩ :: rest

/-- Where an authentication ends with a refusal, the next one begins with a login. -/
def RenewsAfterRefusals (a : CertificateAuthenticator) (calls : List (List Event)) : Prop :=
  ∀ before call next after, calls = before ++ call :: next :: after →
    a.EndsRefused call → BeginsWithLogin next

theorem RenewsAfterRefusals.of_append {calls more : List (List Event)}
    (h : a.RenewsAfterRefusals (calls ++ more)) : a.RenewsAfterRefusals calls := by
  rintro before call next after rfl
  exact h before call next (after ++ more) (by simp)

theorem NeverPresentsRefused.of_append {first rest : List Event}
    (h : a.NeverPresentsRefused (first ++ rest)) : a.NeverPresentsRefused first := by
  rintro before event after rfl
  exact h before event (after ++ rest) (by simp)

theorem Authentications.last {before : List (List Event)} {call : List Event}
    {kept : Option Session} (h : Authentications a (before ++ [call]) kept) :
    ∃ earlier outcome, Authentications a before earlier ∧
      (a.authenticate earlier).Yields call outcome ∧ kept = keptAfter earlier call := by
  generalize hcalls : before ++ [call] = calls at h
  cases h with
  | start => simp at hcalls
  | @next _ earlier _ outcome hbefore hyields =>
      obtain ⟨rfl, hcall⟩ := List.append_inj' hcalls rfl
      cases List.singleton_inj.mp hcall
      exact ⟨earlier, outcome, hbefore, hyields, rfl⟩

/-- A refusal at the end leaves the session kept that was refused. -/
theorem kept_of_endsRefused {kept : Option Session} {events : List Event}
    (h : (a.authenticate kept).Begins events) (hends : a.EndsRefused events) :
    ∃ session, keptAfter kept events = some session := by
  obtain ⟨before, refusal, rfl, hrefuses⟩ := hends
  obtain ⟨session, _, _, hcomes, _⟩ := request_at h (asksForToken_of_refuses hrefuses)
  have hleaves : refusal.effect.leaves (some session) = some session := by
    apply Effect.leaves_of_not_keep
    obtain ⟨client, request, heffect, _⟩ :=
      asksForToken_iff.mp (asksForToken_of_refuses hrefuses)
    rw [heffect]
    rfl
  refine ⟨session, ?_⟩
  rw [Exchange.keptAfter_append, hcomes.is_kept, Exchange.keptAfter_cons, hleaves]
  rfl

/-- An authentication that finds a session looks at the clock; then it begins a login or asks for
the token. -/
theorem authenticate_second_event {session : Session} {events : List Event}
    {outcome : Outcome Unit} {request : Request}
    (h : (a.authenticate (some session)).Yields events outcome)
    (hrequest : a.tokenRequest = .ok request) :
    BeginsWithLogin events ∨
      ∃ now event rest, events = ⟨.now, now⟩ :: event :: rest ∧
        a.asksForToken event.effect = true := by
  obtain ⟨reading, needed, steps, performed, hreads, rfl, hperforms, hprescribed⟩ :=
    authenticate_yields_iff.mp h
  obtain ⟨now, rfl, _⟩ := hreads.of_session
  have hlogin {result : Outcome Session} {more : List Step}
      (hsteps : a.Performs (.login result :: more) performed) :
      BeginsWithLogin ([⟨.now, now⟩] ++ performed) := by
    rcases hsteps with _ | ⟨hlogin, _⟩
    obtain ⟨made, rfl, _⟩ := login_yields_iff.mp hlogin
    exact ⟨now, _, rfl⟩
  cases hprescribed with
  | shut hopening hrefusal =>
      cases hopening with
      | resumed session => exact (hrefusal session rfl).elim
      | renewed => exact Or.inl (hlogin hperforms)
  | asked hopening _ =>
      cases hopening with
      | renewed => exact Or.inl (hlogin hperforms)
      | resumed =>
          rcases hperforms with _ | _ | ⟨hobtain, _⟩
          have hasks : a.asksForToken (.send session.client request) = true :=
            asksForToken_iff.mpr ⟨_, request, rfl, hrequest⟩
          cases Exchange.obtain_yields_iff.mp hobtain with
          | notBuilt hfault =>
              rw [hrequest] at hfault
              cases hfault
          | refused hbuilt _ =>
              rw [hrequest] at hbuilt
              cases hbuilt
              exact Or.inr ⟨now, _, _, rfl, hasks⟩
          | handedOver hbuilt _ =>
              rw [hrequest] at hbuilt
              cases hbuilt
              exact Or.inr ⟨now, _, _, rfl, hasks⟩

private theorem BeginsWithLogin.keeps {events : List Event} (h : BeginsWithLogin events) :
    ∃ event ∈ events, event.effect.isKeep = true := by
  obtain ⟨now, rest, rfl⟩ := h
  exact ⟨⟨.keep none, ()⟩, by simp, rfl⟩

/-- A refusal after which nothing else is kept is the last event of its authentication. -/
private theorem endsRefused_of_quiet {kept : Option Session} {events before after : List Event}
    {refusal : Event} (h : (a.authenticate kept).Begins events)
    (hevents : events = before ++ refusal :: after) (hrefuses : a.refuses refusal = true)
    (hquiet : ∀ event ∈ after, event.effect.isKeep = false) : a.EndsRefused events := by
  subst hevents
  rcases after_refusal h hrefuses with rfl | ⟨rest, rfl⟩
  · exact ⟨before, refusal, rfl, hrefuses⟩
  · have hkeep := hquiet ⟨.keep none, ()⟩ (by simp)
    cases hkeep

/-- While every end with a refusal is followed by a login, a refusal can stand only where no
session is kept or where it is the last event. -/
theorem Authentications.refused_cases {calls : List (List Event)} {kept : Option Session}
    (h : Authentications a calls kept) (hrenews : a.RenewsAfterRefusals calls)
    (hrefused : a.Refused calls.flatten) :
    kept = none ∨ ∃ before call, calls = before ++ [call] ∧ a.EndsRefused call := by
  induction h with
  | start => exact (not_refused_nil hrefused).elim
  | @next calls kept events outcome _ hyields ih =>
      cases hafter : keptAfter kept events with
      | none => exact Or.inl rfl
      | some session =>
          refine Or.inr ⟨calls, events, rfl, ?_⟩
          rw [List.flatten_append, List.flatten_singleton] at hrefused
          rcases (History.of_authenticate hyields.begins).kept hafter with ⟨rfl, hquiet⟩ |
            ⟨before, login, after, rfl, hlogin, hquiet⟩
          · rcases refused_append hrefused with hearlier | ⟨middle, refusal, after, rfl, hrefuses⟩
            · -- The next authentication would have had to begin with a login.
              rcases ih hrenews.of_append hearlier with hnone | ⟨before, call, rfl, hends⟩
              · cases hnone
              · obtain ⟨event, member, hkeep⟩ :=
                  (hrenews before call events [] (by simp) hends).keeps
                rw [hquiet event member] at hkeep
                cases hkeep
            · exact endsRefused_of_quiet hyields.begins rfl hrefuses
                fun event member => hquiet event (by simp [member])
          · rw [← List.append_assoc, ← List.append_assoc] at hrefused
            rcases refused_append hrefused with hearlier | ⟨middle, refusal, last, rfl, hrefuses⟩
            · exact (not_refused_of_login hlogin hearlier).elim
            · have hwhole : before ++ login ++ (middle ++ refusal :: last) =
                  (before ++ login ++ middle) ++ refusal :: last := by simp
              exact endsRefused_of_quiet hyields.begins hwhole hrefuses
                fun event member => hquiet event (by simp [member])

theorem Authentications.never_presents_refused {calls : List (List Event)} {kept : Option Session}
    (h : Authentications a calls kept) (hrenews : a.RenewsAfterRefusals calls) :
    a.NeverPresentsRefused calls.flatten := by
  induction h with
  | start =>
      intro before event after hevents
      simp at hevents
  | @next calls kept events outcome hcalls hyields ih =>
      rw [List.flatten_append, List.flatten_singleton]
      intro before event after hevents hasks hrefused
      rcases Exchange.event_of_append hevents.symm with ⟨tail, hearlier⟩ | ⟨middle, rfl, rfl⟩
      · exact ih hrenews.of_append before event tail hearlier hasks hrefused
      · obtain ⟨hkept, ⟨now, rfl⟩, hearlier⟩ :=
          refused_before_request hyields.begins hasks hrefused
        rcases hcalls.refused_cases hrenews.of_append hearlier with rfl | ⟨front, call, rfl, hends⟩
        · cases hkept
        · obtain ⟨_, _, hlogin⟩ :=
            hrenews front call ([⟨.now, now⟩] ++ event :: after) [] (by simp) hends
          have hkeep : event = ⟨.keep none, ()⟩ := (List.cons.inj (List.cons.inj hlogin).2).1
          subst hkeep
          cases hasks

/-- The token is asked for in the session that was refused last. -/
private theorem presents_refused {before : List (List Event)} {call next : List Event}
    {kept : Option Session} {outcome : Outcome Unit}
    (hcalls : Authentications a (before ++ [call]) kept) (hends : a.EndsRefused call)
    (hnext : (a.authenticate kept).Yields next outcome)
    (hnever : a.NeverPresentsRefused ((before ++ [call]).flatten ++ next)) :
    BeginsWithLogin next := by
  obtain ⟨earlier, _, _, hyields, rfl⟩ := hcalls.last
  obtain ⟨session, hsession⟩ := kept_of_endsRefused hyields.begins hends
  rw [hsession] at hnext
  obtain ⟨first, refusal, rfl, hrefuses⟩ := hends
  obtain ⟨request, hrequest⟩ := request_of_refuses hrefuses
  rcases authenticate_second_event hnext hrequest with hlogin | ⟨now, event, last, rfl, hasks⟩
  · exact hlogin
  · exfalso
    refine hnever (before.flatten ++ first ++ [refusal, ⟨.now, now⟩]) event last (by simp) hasks ?_
    refine ⟨before.flatten ++ first, refusal, [⟨.now, now⟩], rfl, hrefuses, ?_⟩
    intro quiet login later second hevents hlogin
    obtain ⟨made, rfl, _⟩ := login_yields_iff.mp hlogin
    have hmember : (⟨.keep none, ()⟩ : Event) ∈ [(⟨.now, now⟩ : Event)] := by
      rw [hevents]
      simp
    cases List.mem_singleton.mp hmember

theorem Authentications.renews_after_refusals {calls : List (List Event)} {kept : Option Session}
    (h : Authentications a calls kept) (hnever : a.NeverPresentsRefused calls.flatten) :
    a.RenewsAfterRefusals calls := by
  induction h with
  | start =>
      intro before call next after hcalls
      simp at hcalls
  | @next calls kept events outcome hcalls hyields ih =>
      rw [List.flatten_append, List.flatten_singleton] at hnever
      intro before call next after hsplit hends
      rcases List.eq_nil_or_concat after with rfl | ⟨more, last, rfl⟩
      · have hlast : calls ++ [events] = (before ++ [call]) ++ [next] := by simpa using hsplit
        obtain ⟨rfl, hnext⟩ := List.append_inj' hlast rfl
        cases List.singleton_inj.mp hnext
        exact presents_refused hcalls hends hyields hnever
      · have hlast : calls ++ [events] = (before ++ call :: next :: more) ++ [last] := by
          simpa using hsplit
        obtain ⟨rfl, _⟩ := List.append_inj' hlast rfl
        exact ih hnever.of_append before call next more rfl hends

/-- A refused certificate is never presented again within one authentication. Over a run of
authentications it is never presented again before a login has succeeded exactly where each
authentication that follows one ending with a refusal begins with a login. -/
theorem never_presents_refused_iff (a : CertificateAuthenticator) {calls : List (List Event)}
    {kept : Option Session} (h : Authentications a calls kept) :
    (∀ start events, (a.authenticate start).Begins events → a.NeverPresentsRefused events) ∧
      (a.NeverPresentsRefused calls.flatten ↔ a.RenewsAfterRefusals calls) :=
  ⟨fun _ _ hbegins => authenticate_never_presents_refused hbegins,
    h.renews_after_refusals, h.never_presents_refused⟩

namespace Sample

/-- The broker refuses two certificates and then gives the token. -/
def refusing : World := world [signed, expired, signed, expired, granted]

/-- An authentication that ends with the refusal of its second certificate. -/
def first : List Event := (authenticator.authenticate none).eventsIn refusing

/-- The authentication that comes after it. -/
def second : List Event :=
  (authenticator.authenticate (keptAfter none first)).eventsIn (refusing.afterEvents first)

theorem authentications_first :
    Authentications authenticator [first] (keptAfter none first) :=
  .next .start (Exchange.yields_eventsIn _ refusing)

end Sample

theorem never_presents_refused_iff_first :
    Authentications Sample.authenticator [Sample.first] (keptAfter none Sample.first) ∧
      Sample.authenticator.NeverPresentsRefused [Sample.first].flatten := by
  refine ⟨Sample.authentications_first, ?_⟩
  apply (never_presents_refused_iff Sample.authenticator Sample.authentications_first).2.mpr
  intro before call next after hcalls
  have hlength := congrArg List.length hcalls
  simp at hlength
  omega

/-- The second authentication presents the very certificate that the first one ended with. -/
theorem presents_refused_certificate_again :
    ¬ ∀ (a : CertificateAuthenticator) (calls : List (List Event)) (kept : Option Session),
      Authentications a calls kept → a.NeverPresentsRefused calls.flatten := by
  intro hnever
  have hboth : Authentications Sample.authenticator [Sample.first, Sample.second] _ :=
    .next Sample.authentications_first
      (Exchange.yields_eventsIn _ (Sample.refusing.afterEvents Sample.first))
  have hrenews := hboth.renews_after_refusals (hnever _ _ _ hboth)
  have hshown : Sample.first.getLast?.any Sample.authenticator.refuses &&
      Sample.second[1]?.any (Sample.authenticator.asksForToken ·.effect) = true := by
    decide +kernel
  obtain ⟨hends, hasks⟩ := Bool.and_eq_true_iff.mp hshown
  obtain ⟨now, rest, hsecond⟩ :=
    hrenews [] Sample.first Sample.second [] rfl (endsRefused_of_getLast? hends)
  rw [hsecond] at hasks
  cases hasks

end CertificateAuthenticator

end WorkloadIdentity
