import WorkloadIdentity.Proofs.Certificate.Authentication

/-!
The session through any number of logins and authentications, each of which may end, fail or be
stopped anywhere. `History` sees no more of them than where the logins are. This settles whose
session is kept: it is the one of the last login that was begun, and that login has run to its
end. What an authentication presents is the session that is kept at that moment.
-/

namespace WorkloadIdentity.CertificateAuthenticator

open Exchange (Event keptAfter)

variable {a : CertificateAuthenticator}

/-! ### Histories -/

/-- The only events that change the kept session are those of logins, each of which may have been
stopped anywhere. -/
inductive History (a : CertificateAuthenticator) : List Event → Prop
  | nil : History a []
  | quiet {event : Event} {rest : List Event} :
      event.effect.isKeep = false → History a rest → History a (event :: rest)
  | login {begun rest : List Event} :
      a.login.Begins begun → History a rest → History a (begun ++ rest)

namespace History

theorem append {first rest : List Event} (hfirst : a.History first) (hrest : a.History rest) :
    a.History (first ++ rest) := by
  induction hfirst with
  | nil => exact hrest
  | quiet hevent _ ih => exact .quiet hevent ih
  | login hbegun _ ih =>
      rw [List.append_assoc]
      exact .login hbegun ih

theorem of_login {events : List Event} (h : a.login.Begins events) : a.History events := by
  simpa using History.login h .nil

theorem of_quiet {events : List Event} (h : ∀ event ∈ events, event.effect.isKeep = false) :
    a.History events := by
  induction events with
  | nil => exact .nil
  | cons event rest ih =>
      refine .quiet (h event (by simp)) (ih ?_)
      intro later member
      exact h later (by simp [member])

/-- The session that is kept at the end was kept from the start, or by the last login. -/
theorem kept {events : List Event} (h : a.History events) {kept : Option Session}
    {session : Session} (hkept : keptAfter kept events = some session) :
    (kept = some session ∧ ∀ event ∈ events, event.effect.isKeep = false) ∨
      ∃ before login after, events = before ++ login ++ after ∧
        a.login.Yields login (.ok session) ∧ ∀ event ∈ after, event.effect.isKeep = false := by
  -- Each part hands on what it leaves kept, so the session kept at the start varies.
  induction h generalizing kept with
  | nil => exact Or.inl ⟨hkept, by simp⟩
  | @quiet event rest hevent _ ih =>
      rw [Exchange.keptAfter_cons, Effect.leaves_of_not_keep hevent] at hkept
      rcases ih hkept with ⟨hsame, hrest⟩ | ⟨before, login, after, rfl, hlogin, hafter⟩
      · exact Or.inl ⟨hsame, by simpa using ⟨hevent, hrest⟩⟩
      · exact Or.inr ⟨event :: before, login, after, rfl, hlogin, hafter⟩
  | @login begun rest hbegun _ ih =>
      rw [Exchange.keptAfter_append] at hkept
      rcases ih hkept with ⟨hsame, hrest⟩ | ⟨before, login, after, rfl, hlogin, hafter⟩
      · by_cases hempty : begun = []
        · subst hempty
          exact Or.inl ⟨hsame, hrest⟩
        · rcases login_leaves hbegun hempty kept with hnone | ⟨made, hmade, hkeeps⟩
          · rw [hnone] at hsame
            cases hsame
          · rw [hkeeps] at hsame
            cases hsame
            exact Or.inr ⟨[], begun, rest, by simp, hmade, hrest⟩
      · exact Or.inr ⟨begun ++ before, login, after, by simp, hlogin, hafter⟩

end History

theorem obtain_keeps_nothing {session : Session} {events : List Event}
    (h : (a.obtain session).Begins events) :
    ∀ event ∈ events, event.effect.isKeep = false := by
  intro event member
  rcases Exchange.obtain_begins h with rfl | ⟨built, answer, _, rfl⟩ | ⟨outcome, hobtained⟩
  · simp at member
  · cases List.mem_singleton.mp member
    rfl
  · cases hobtained with
    | notBuilt _ => simp at member
    | refused _ _ =>
        cases List.mem_singleton.mp member
        rfl
    | handedOver _ _ =>
        rcases List.mem_cons.mp member with hsend | hstore
        · cases hsend
          rfl
        · cases List.mem_singleton.mp hstore
          rfl

/-! ### An authentication that is stopped -/

/-- How far a search for the session has come: it has looked at the clock at most, or is in a
login. -/
theorem sessionFor_begins {kept : Option Session} {events : List Event}
    (h : (a.sessionFor kept).Begins events) :
    ∃ reading begun, events = reading ++ begun ∧
      (∀ event ∈ reading, event.effect = .now) ∧ a.login.Begins begun := by
  cases kept with
  | none => exact ⟨[], events, rfl, by simp, h⟩
  | some session =>
      rcases Exchange.begins_call_bind_iff.mp h with rfl | ⟨now, rest, rfl, hrest⟩
      · exact ⟨[], [], rfl, by simp, .nil _⟩
      · split at hrest
        · exact ⟨[⟨.now, now⟩], rest, rfl, by simp, hrest⟩
        · obtain rfl := Exchange.begins_ofOutcome_iff.mp hrest
          exact ⟨[⟨.now, now⟩], [], rfl, by simp, .nil _⟩

theorem recovery_begins {first : Outcome Unit} {events : List Event}
    (h : (a.recovery first).Begins events) :
    a.login.Begins events ∨
      ∃ begun session asked, events = begun ++ asked ∧ a.login.Yields begun (.ok session) ∧
        (a.obtain session).Begins asked := by
  cases hexpired : first.isCertificateExpired with
  | false =>
      rw [recovery, hexpired, if_neg Bool.false_ne_true] at h
      obtain rfl := Exchange.begins_ofOutcome_iff.mp h
      exact Or.inl (.nil _)
  | true =>
      rw [recovery, hexpired, if_pos rfl] at h
      exact Exchange.begins_bind_iff.mp h

theorem authenticate_begins {kept : Option Session} {events : List Event}
    (h : (a.authenticate kept).Begins events) :
    (a.sessionFor kept).Begins events ∨
      ∃ opened session asked, events = opened ++ asked ∧
        (a.sessionFor kept).Yields opened (.ok session) ∧
        ((a.obtain session).Begins asked ∨
          ∃ first outcome recovered, asked = first ++ recovered ∧
            (a.obtain session).Yields first outcome ∧ (a.recovery outcome).Begins recovered) := by
  rw [authenticate_eq] at h
  rcases Exchange.begins_bind_iff.mp h with hopening |
    ⟨opened, session, asked, rfl, hopened, hasked⟩
  · exact Or.inl hopening
  · exact Or.inr ⟨opened, session, asked, rfl, hopened, Exchange.begins_followedBy_iff.mp hasked⟩

private theorem history_of_sessionFor {kept : Option Session} {events : List Event}
    (h : (a.sessionFor kept).Begins events) : a.History events := by
  obtain ⟨reading, begun, rfl, hreading, hbegun⟩ := sessionFor_begins h
  refine .append (.of_quiet ?_) (.of_login hbegun)
  intro event member
  rw [hreading event member]
  rfl

theorem History.of_authenticate {kept : Option Session} {events : List Event}
    (h : (a.authenticate kept).Begins events) : a.History events := by
  rcases authenticate_begins h with hopening | ⟨opened, session, asked, rfl, hopened, hasked⟩
  · exact history_of_sessionFor hopening
  refine .append (history_of_sessionFor hopened.begins) ?_
  rcases hasked with hasked | ⟨first, outcome, recovered, rfl, hfirst, hrecovered⟩
  · exact .of_quiet (obtain_keeps_nothing hasked)
  refine .append (.of_quiet (obtain_keeps_nothing hfirst.begins)) ?_
  rcases recovery_begins hrecovered with hlogin | ⟨begun, second, last, rfl, hbegun, hlast⟩
  · exact .of_login hlogin
  · exact .append (.of_login hbegun.begins) (.of_quiet (obtain_keeps_nothing hlast))

/-! ### What is presented -/

theorem sessionFor_asks_nothing {kept : Option Session} {events : List Event}
    (h : (a.sessionFor kept).Begins events) :
    ∀ event ∈ events, a.asksForToken event.effect = false := by
  obtain ⟨reading, begun, rfl, hreading, hbegun⟩ := sessionFor_begins h
  intro event member
  rcases List.mem_append.mp member with hread | hlogin
  · rw [hreading event hread]
    rfl
  · exact login_asks_nothing hbegun event hlogin

/-- The session was kept at the start and is fresh enough, as a look at the clock has shown, or it
comes from a login that has just ended. -/
def ComesFrom (a : CertificateAuthenticator) (session : Session) (kept : Option Session)
    (before : List Event) : Prop :=
  (kept = some session ∧
      ∃ now, before = [⟨.now, now⟩] ∧ a.needsLogin (some session) now = false) ∨
    ∃ earlier login, before = earlier ++ login ∧ a.login.Yields login (.ok session)

theorem sessionFor_comesFrom {kept : Option Session} {events : List Event} {session : Session}
    (h : (a.sessionFor kept).Yields events (.ok session)) : a.ComesFrom session kept events := by
  obtain ⟨reading, needed, steps, performed, hreads, rfl, hperforms, hopening⟩ :=
    sessionFor_yields_iff.mp h
  cases hopening with
  | resumed session =>
      cases hperforms
      obtain ⟨now, rfl, hneeded⟩ := hreads.of_session
      exact Or.inl ⟨rfl, now, by simp, hneeded.symm⟩
  | renewed kept outcome => exact Or.inr ⟨reading, performed, rfl, performs_login_iff.mp hperforms⟩

theorem ComesFrom.is_kept {session : Session} {kept : Option Session} {before : List Event}
    (h : a.ComesFrom session kept before) : keptAfter kept before = some session := by
  rcases h with ⟨rfl, now, rfl, _⟩ | ⟨earlier, login, rfl, hlogin⟩
  · rfl
  · rw [Exchange.keptAfter_append]
    exact keptAfter_login _ hlogin

private theorem obtain_asks_first {session : Session} {before after : List Event} {event : Event}
    (h : (a.obtain session).Begins (before ++ event :: after))
    (hasks : a.asksForToken event.effect = true) : before = [] := by
  cases before with
  | nil => rfl
  | cons first before =>
      have hlater : ∀ later ∈ before ++ event :: after, later.effect.isStore = true := by
        rw [List.cons_append] at h
        rcases Exchange.obtain_begins h with hnil | ⟨built, reply, _, hsent⟩ | ⟨outcome, hobtained⟩
        · cases hnil
        · rw [(List.cons.inj hsent).2]
          simp
        · generalize before ++ event :: after = rest at hobtained
          cases hobtained with
          | refused _ _ => simp
          | handedOver _ _ => simp [Effect.isStore]
      have hstore := hlater event (by simp)
      obtain ⟨effect, answer⟩ := event
      cases effect with
      | store token => cases hasks
      | _ => cases hstore

/-- A request for the token in an authentication is made as soon as its session is there. What
follows is the end of the asking and then a login, if anything. -/
theorem request_at {kept : Option Session} {before after : List Event} {event : Event}
    (h : (a.authenticate kept).Begins (before ++ event :: after))
    (hasks : a.asksForToken event.effect = true) :
    ∃ session tail later, a.ComesFrom session kept before ∧
      (a.obtain session).Begins (event :: tail) ∧ after = tail ++ later ∧
      (later = [] ∨ ∃ rest, later = ⟨.keep none, ()⟩ :: rest) := by
  -- The parts of the authentication that ask for nothing do not have this event.
  have hnowhere {events : List Event} (hmember : event ∈ events)
      (hquiet : ∀ event ∈ events, a.asksForToken event.effect = false) : False := by
    rw [hquiet event hmember] at hasks
    cases hasks
  rcases authenticate_begins h with hopening | ⟨opened, session, asked, hevents, hopened, hasked⟩
  · exact (hnowhere (by simp) (sessionFor_asks_nothing hopening)).elim
  rcases Exchange.event_of_append hevents with ⟨tail, rfl⟩ | ⟨middle, rfl, rfl⟩
  · exact (hnowhere (by simp) (sessionFor_asks_nothing hopened.begins)).elim
  have hcomes := sessionFor_comesFrom hopened
  rcases hasked with hasked | ⟨first, outcome, recovered, hasked, hfirst, hrecovered⟩
  · obtain rfl := obtain_asks_first hasked hasks
    exact ⟨session, after, [], by simpa using hcomes, hasked, by simp, Or.inl rfl⟩
  rcases Exchange.event_of_append hasked with ⟨tail, rfl⟩ | ⟨later, rfl, rfl⟩
  · obtain rfl := obtain_asks_first hfirst.begins hasks
    refine ⟨session, tail, recovered, by simpa using hcomes, hfirst.begins, ?_, ?_⟩
    · simpa using hasked
    · rcases recovery_begins hrecovered with hlogin | ⟨begun, second, last, rfl, hbegun, _⟩
      · exact login_begins_keeping_none hlogin
      · obtain ⟨made, rfl, _⟩ := login_yields_iff.mp hbegun
        exact Or.inr ⟨_, rfl⟩
  rcases recovery_begins hrecovered with hlogin | ⟨begun, second, last, hagain, hbegun, hlast⟩
  · exact (hnowhere (by simp) (login_asks_nothing hlogin)).elim
  rcases Exchange.event_of_append hagain with ⟨tail, rfl⟩ | ⟨final, rfl, rfl⟩
  · exact (hnowhere (by simp) (login_asks_nothing hbegun.begins)).elim
  obtain rfl := obtain_asks_first hlast hasks
  exact ⟨second, after, [], Or.inr ⟨opened ++ first, begun, by simp, hbegun⟩, hlast, by simp,
    Or.inl rfl⟩

/-- Every request for the token is made with the client of the session that is kept then. -/
theorem presented_session {kept : Option Session} {before after : List Event} {client : Client}
    {request : Request} {answer : Except TransportFault Response}
    (h : (a.authenticate kept).Begins (before ++ ⟨.send client request, answer⟩ :: after))
    (hrequest : a.tokenRequest = .ok request) :
    ∃ session, client = session.client ∧ a.ComesFrom session kept before := by
  have hasks : a.asksForToken (.send client request) = true :=
    asksForToken_iff.mpr ⟨client, request, rfl, hrequest⟩
  obtain ⟨session, tail, _, hcomes, hobtain, _⟩ := request_at h hasks
  refine ⟨session, ?_, hcomes⟩
  rcases Exchange.obtain_begins hobtain with hnil | ⟨built, reply, _, hsent⟩ | ⟨outcome, hobtained⟩
  · cases hnil
  · cases (List.cons.inj hsent).1
    rfl
  · cases hobtained <;> rfl

/-! ### Runs -/

/-- A run of logins and authentications from no session on, each of which has been stopped
anywhere or has ended: the events of each call, and the session that is kept after them. -/
inductive Run (a : CertificateAuthenticator) : List (List Event) → Option Session → Prop
  | start : Run a [] none
  | login {calls : List (List Event)} {kept : Option Session} {events : List Event} :
      Run a calls kept → a.login.Begins events →
      Run a (calls ++ [events]) (keptAfter kept events)
  | authenticate {calls : List (List Event)} {kept : Option Session} {events : List Event} :
      Run a calls kept → (a.authenticate kept).Begins events →
      Run a (calls ++ [events]) (keptAfter kept events)

theorem Run.history {calls : List (List Event)} {kept : Option Session} (h : Run a calls kept) :
    a.History calls.flatten ∧ keptAfter none calls.flatten = kept := by
  induction h with
  | start => exact ⟨.nil, rfl⟩
  | login _ hbegins ih =>
      obtain ⟨hhistory, rfl⟩ := ih
      rw [List.flatten_append]
      exact ⟨hhistory.append (by simpa using History.of_login hbegins), by simp⟩
  | authenticate _ hbegins ih =>
      obtain ⟨hhistory, rfl⟩ := ih
      rw [List.flatten_append]
      exact ⟨hhistory.append (by simpa using History.of_authenticate hbegins), by simp⟩

/-- The session was made by a login that has run to its end: it holds the certificate that was
read from the bytes that the waiter returned to this login, and the client that shows this
certificate with the session key. -/
def MadeBy (a : CertificateAuthenticator) (session : Session) (login : List Event) : Prop :=
  a.login.Yields login (.ok session) ∧
    ∃ before waited after delivered, login = before ++ waited ++ after ∧
      (Delivery.await a.settings.certificatePath a.settings.retryLimit
        a.settings.pollInterval).Yields waited (.ok delivered) ∧
      ClientCertificate.ofText delivered = .ok session.certificate ∧
      a.connector.mutualClient (Utf8.ofString session.certificate.text) a.key.signing =
        .ok session.client

theorem madeBy_of_login {session : Session} {login : List Event}
    (h : a.login.Yields login (.ok session)) : a.MadeBy session login := by
  refine ⟨h, ?_⟩
  obtain ⟨made, rfl, hmade⟩ := login_yields_iff.mp h
  obtain ⟨before, waited, after, delivered, rfl, hwaited, hsession⟩ := newSession_delivered hmade
  obtain ⟨hcertificate, hclient⟩ := session_eq_ok_iff.mp hsession
  exact ⟨⟨.keep none, ()⟩ :: before, waited, after ++ closing (.ok session), delivered,
    by simp, hwaited, hcertificate, hclient⟩

theorem Run.kept_session {calls : List (List Event)} {session : Session}
    (h : Run a calls (some session)) :
    ∃ before login after, calls.flatten = before ++ login ++ after ∧ a.MadeBy session login ∧
      ∀ event ∈ after, event.effect.isKeep = false := by
  obtain ⟨hhistory, hkept⟩ := h.history
  rcases hhistory.kept hkept with ⟨hnone, _⟩ | ⟨before, login, after, hevents, hlogin, hafter⟩
  · cases hnone
  · exact ⟨before, login, after, hevents, madeBy_of_login hlogin, hafter⟩

theorem login_failed_leaves {events : List Event} (h : a.login.Begins events)
    (hbegun : events ≠ []) (hfailed : ∀ session, ¬ a.login.Yields events (.ok session))
    (kept : Option Session) : keptAfter kept events = none := by
  rcases login_leaves h hbegun kept with hnone | ⟨session, hsession, _⟩
  · exact hnone
  · exact (hfailed session hsession).elim

/-- At every moment of a run the kept session is the one of the login that was begun last, and
this login has run to its end. A login that fails or is stopped leaves no session, whatever was
kept before. A request for the token is never made by a login, and in an authentication it is made
with the client of the session that is kept at that moment; this session was kept at the start and
fresh enough then, or comes from a login of the same authentication. -/
theorem kept_session_is_of_last_login (a : CertificateAuthenticator)
    {calls : List (List Event)} {kept : Option Session} (hrun : Run a calls kept) :
    (∀ session, kept = some session →
      ∃ before login after, calls.flatten = before ++ login ++ after ∧ a.MadeBy session login ∧
        ∀ event ∈ after, event.effect.isKeep = false) ∧
    (∀ old events, a.login.Begins events → events ≠ [] →
      (∀ session, ¬ a.login.Yields events (.ok session)) → keptAfter old events = none) ∧
    (∀ old events outcome, a.login.Yields events outcome → (∀ session, outcome ≠ .ok session) →
      keptAfter old events = none) ∧
    (∀ events, a.login.Begins events → ∀ event ∈ events, a.asksForToken event.effect = false) ∧
    (∀ before client request answer after,
      (a.authenticate kept).Begins (before ++ ⟨.send client request, answer⟩ :: after) →
      a.tokenRequest = .ok request →
      ∃ session, keptAfter kept before = some session ∧ client = session.client ∧
        a.ComesFrom session kept before) := by
  refine ⟨?_, ?_, ?_, ?_, ?_⟩
  · rintro session rfl
    exact hrun.kept_session
  · intro old events hbegins hbegun hfailed
    exact login_failed_leaves hbegins hbegun hfailed old
  · intro old events outcome hyields hfailed
    have hbegun : events ≠ [] := by
      obtain ⟨made, rfl, _⟩ := login_yields_iff.mp hyields
      simp
    refine login_failed_leaves hyields.begins hbegun ?_ old
    intro session hsession
    exact hfailed session (hsession.unique hyields)
  · intro events hbegins
    exact login_asks_nothing hbegins
  · intro before client request answer after hbegins hrequest
    obtain ⟨session, hclient, hcomes⟩ := presented_session hbegins hrequest
    exact ⟨session, hcomes.is_kept, hclient, hcomes⟩

theorem kept_session_is_of_last_login_signed :
    let login := Sample.authenticator.login.eventsIn (Sample.world [Sample.signed])
    Run Sample.authenticator [login] (keptAfter none login) ∧
      ∃ session, keptAfter none login = some session ∧
        ∃ before last after, [login].flatten = before ++ last ++ after ∧
          Sample.authenticator.MadeBy session last ∧
          ∀ event ∈ after, event.effect.isKeep = false := by
  intro login
  have hbegins : Sample.authenticator.login.Begins login :=
    (Exchange.yields_eventsIn Sample.authenticator.login (Sample.world [Sample.signed])).begins
  have hrun : Run Sample.authenticator [login] (keptAfter none login) := .login .start hbegins
  have hsome : (keptAfter none login).isSome = true := by decide +kernel
  obtain ⟨session, hsession⟩ := Option.isSome_iff_exists.mp hsome
  exact ⟨hrun, session, hsession,
    (kept_session_is_of_last_login Sample.authenticator hrun).1 session hsession⟩

end WorkloadIdentity.CertificateAuthenticator
