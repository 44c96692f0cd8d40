import WorkloadIdentity.Exchange.Certificate
import WorkloadIdentity.Proofs.Exchange.Trace

/-!
Logins. A login gives up the session that is kept before it does anything else, then works
towards a new one by effects that touch neither the kept session nor the access token, and keeps
the new session as its last effect. So it either leaves no session or has run to its end, wherever
it is stopped.
-/

namespace WorkloadIdentity

/-! ### The kept session -/

/-- The effect changes the kept session. -/
def Effect.isKeep : Effect → Bool
  | .keep _ => true
  | _ => false

/-- The effect gives up the kept session, as a login does at its start. -/
def Effect.beginsLogin : Effect → Bool
  | .keep none => true
  | _ => false

/-- The session that is kept after an effect. -/
def Effect.leaves (kept : Option Session) : Effect → Option Session
  | .keep session => session
  | _ => kept

theorem Effect.leaves_of_not_keep {effect : Effect} (h : effect.isKeep = false)
    (kept : Option Session) : effect.leaves kept = kept := by
  cases effect with
  | keep session => cases h
  | _ => rfl

theorem Effect.not_store_of_keep {effect : Effect} (h : effect.isKeep = true) :
    effect.isStore = false := by
  cases effect with
  | store token => cases h
  | _ => rfl

theorem Effect.not_beginsLogin_of_not_keep {effect : Effect} (h : effect.isKeep = false) :
    effect.beginsLogin = false := by
  cases effect with
  | keep session => cases h
  | _ => rfl

namespace Exchange

/-- The session that is kept after events. -/
def keptAfter (kept : Option Session) (events : List Event) : Option Session :=
  events.foldl (fun kept event => event.effect.leaves kept) kept

@[simp] theorem keptAfter_nil (kept : Option Session) : keptAfter kept [] = kept := rfl

@[simp] theorem keptAfter_cons (kept : Option Session) (event : Event) (rest : List Event) :
    keptAfter kept (event :: rest) = keptAfter (event.effect.leaves kept) rest := rfl

@[simp] theorem keptAfter_append (kept : Option Session) (first rest : List Event) :
    keptAfter kept (first ++ rest) = keptAfter (keptAfter kept first) rest := by
  simp [keptAfter]

theorem keptAfter_of_no_keep {kept : Option Session} {events : List Event}
    (h : ∀ event ∈ events, event.effect.isKeep = false) : keptAfter kept events = kept := by
  induction events with
  | nil => rfl
  | cons event rest ih =>
      rw [keptAfter_cons, Effect.leaves_of_not_keep (h event (by simp))]
      exact ih fun later member => h later (by simp [member])

end Exchange

/-! ### Requests -/

theorem Request.build_eq {method : Method} {address : String}
    {query headers : List (String × String)} {body : Body} {request : Request}
    (h : Request.build method address query headers body = .ok request) :
    request.method = method ∧ request.body = body := by
  grind [Request.build]

/-! ### Waiting for the certificate -/

/-- Waiting looks at the file and pauses. -/
theorem Delivery.awaitFrom_only (path : Path) (interval : Duration) (more : Nat)
    (waited : Duration) :
    (Delivery.awaitFrom path interval more waited).Only fun effect =>
      effect = .file (.read path) ∨ effect = .sleep interval := by
  induction more generalizing waited with
  | zero =>
      unfold Delivery.awaitFrom
      refine .bind (.call (Or.inl rfl)) fun look => .bind (.ofOutcome _) fun found => ?_
      cases found <;> exact .ofOutcome _
  | succ more ih =>
      unfold Delivery.awaitFrom
      refine .bind (.call (Or.inl rfl)) fun look => .bind (.ofOutcome _) fun found => ?_
      cases found with
      | some content => exact .ofOutcome _
      | none =>
          refine .bind (.call (Or.inr rfl)) fun _ => ?_
          cases waited.add? interval with
          | none => exact .ofOutcome _
          | some waited => exact ih waited

namespace CertificateAuthenticator

open Exchange (Event keptAfter)

variable {a : CertificateAuthenticator}

/-- The effects by which a login works towards a new session. -/
def WorksTowardsSession (a : CertificateAuthenticator) : Effect → Prop
  | .file call =>
    call = .read a.settings.certificatePath ∨ call = .remove a.settings.certificatePath
  | .sleep _ => True
  | .send client request =>
    client = a.connector.client ∧ ∃ csr, a.loginRequest csr = .ok request
  | _ => False

theorem newSession_only (a : CertificateAuthenticator) :
    a.newSession.Only a.WorksTowardsSession := by
  have hdiscard : (Exchange.discardFile a.settings.certificatePath).Only
      a.WorksTowardsSession :=
    .bind (.call (Or.inr rfl)) fun _ => .ofOutcome _
  have hresponse (csr : SigningRequest) :
      (Exchange.response a.connector.client (a.loginRequest csr)).Only
        a.WorksTowardsSession := by
    cases hrequest : a.loginRequest csr with
    | ok built => exact .call ⟨rfl, csr, hrequest⟩
    | error fault => exact .ofOutcome _
  have hawait : (Delivery.await a.settings.certificatePath a.settings.retryLimit
      a.settings.pollInterval).Only a.WorksTowardsSession := by
    apply (Delivery.awaitFrom_only _ _ _ _).mono
    rintro effect (rfl | rfl)
    · exact Or.inl rfl
    · trivial
  unfold newSession
  exact .bind hdiscard fun _ => .bind (.ofOutcome _) fun csr => .bind (hresponse csr) fun _ =>
    .bind (.ofOutcome _) fun _ => .bind hawait fun _ => .bind hdiscard fun _ => .ofOutcome _

theorem WorksTowardsSession.not_keep {effect : Effect} (h : a.WorksTowardsSession effect) :
    effect.isKeep = false := by
  cases effect with
  | keep session => exact h.elim
  | _ => rfl

/-- The effect asks the broker for the access token, which presents the certificate of the client
that sends it. -/
def asksForToken (a : CertificateAuthenticator) : Effect → Bool
  | .send _ request => a.tokenRequest.toOption == some request
  | _ => false

theorem asksForToken_iff {effect : Effect} :
    a.asksForToken effect = true ↔
      ∃ client request, effect = .send client request ∧ a.tokenRequest = .ok request := by
  cases effect with
  | send client request =>
      cases hbuilt : a.tokenRequest with
      | ok built => simpa [asksForToken, hbuilt, Except.toOption] using eq_comm
      | error fault => simp [asksForToken, hbuilt, Except.toOption]
  | _ => simp [asksForToken]

/-- A signing request is no request for the token. -/
theorem WorksTowardsSession.not_asksForToken {effect : Effect} (h : a.WorksTowardsSession effect) :
    a.asksForToken effect = false := by
  rw [Bool.eq_false_iff]
  intro hasks
  obtain ⟨client, request, rfl, htoken⟩ := asksForToken_iff.mp hasks
  obtain ⟨_, csr, hlogin⟩ := h
  have hempty : request.body = .empty := (Request.build_eq htoken).2
  have hsigning : request.body = .signingRequest csr := (Request.build_eq hlogin).2
  rw [hempty] at hsigning
  cases hsigning

theorem WorksTowardsSession.not_store {effect : Effect} (h : a.WorksTowardsSession effect) :
    effect.isStore = false := by
  cases effect with
  | store token => exact h.elim
  | _ => rfl

theorem not_asksForToken_of_keep {effect : Effect} (h : effect.isKeep = true) :
    a.asksForToken effect = false := by
  cases effect with
  | send client request => cases h
  | _ => rfl

/-- The waiter returned these bytes to the login, and they make the session. -/
theorem newSession_delivered {events : List Event} {session : Session}
    (h : a.newSession.Yields events (.ok session)) :
    ∃ before waited after delivered, events = before ++ waited ++ after ∧
      (Delivery.await a.settings.certificatePath a.settings.retryLimit
        a.settings.pollInterval).Yields waited (.ok delivered) ∧
      a.session delivered = .ok session := by
  unfold newSession at h
  obtain ⟨removed, _, rest, rfl, _, h⟩ := Exchange.yields_bind_ok_iff.mp h
  obtain ⟨created, csr, rest, rfl, _, h⟩ := Exchange.yields_bind_ok_iff.mp h
  obtain ⟨asked, answer, rest, rfl, _, h⟩ := Exchange.yields_bind_ok_iff.mp h
  obtain ⟨checked, _, rest, rfl, _, h⟩ := Exchange.yields_bind_ok_iff.mp h
  obtain ⟨waited, delivered, rest, rfl, hwaited, h⟩ := Exchange.yields_bind_ok_iff.mp h
  obtain ⟨cleared, _, rest, rfl, _, h⟩ := Exchange.yields_bind_ok_iff.mp h
  obtain ⟨rfl, hsession⟩ := Exchange.yields_ofOutcome_iff.mp h
  refine ⟨removed ++ created ++ asked ++ checked, waited, cleared, delivered, by simp,
    hwaited, ?_⟩
  cases hmade : a.session delivered with
  | ok made =>
      rw [hmade] at hsession
      cases hsession
      rfl
  | error failure =>
      rw [hmade] at hsession
      cases hsession

/-- A session holds the certificate that was read from the delivered bytes, and a client that
shows just this certificate with the session key. -/
theorem session_eq_ok_iff {delivered : Bytes} {session : Session} :
    a.session delivered = .ok session ↔
      ClientCertificate.ofText delivered = .ok session.certificate ∧
        a.connector.mutualClient (Utf8.ofString session.certificate.text) a.key.signing =
          .ok session.client := by
  have hread {read : ClientCertificate} (h : ClientCertificate.ofText delivered = .ok read) :
      a.session delivered =
        ((a.connector.mutualClient (Utf8.ofString read.text) a.key.signing).mapError .certificate
          >>= fun client => pure ⟨read, client⟩) := by
    unfold CertificateAuthenticator.session
    rw [h]
    rfl
  constructor
  · intro h
    cases hcertificate : ClientCertificate.ofText delivered with
    | error fault =>
        unfold CertificateAuthenticator.session at h
        rw [hcertificate] at h
        cases h
    | ok read =>
        rw [hread hcertificate] at h
        cases hclient : a.connector.mutualClient (Utf8.ofString read.text) a.key.signing with
        | error fault =>
            rw [hclient] at h
            cases h
        | ok made =>
            rw [hclient] at h
            cases h
            exact ⟨rfl, hclient⟩
  · rintro ⟨hcertificate, hclient⟩
    rw [hread hcertificate, hclient]
    rfl

/-- The last effect of a login, which only a successful one comes to. -/
def closing : Outcome Session → List Event
  | .ok session => [⟨.keep (some session), ()⟩]
  | _ => []

private theorem keepNew_yields_iff {session : Session} {events : List Event}
    {outcome : Outcome Session} :
    (Exchange.keep (some session) >>= fun _ => pure session : Exchange Session).Yields events
        outcome ↔
      events = closing (.ok session) ∧ outcome = .ok session := by
  constructor
  · intro h
    obtain ⟨answer, rest, rfl, hrest⟩ := Exchange.yields_call_bind_iff.mp h
    obtain ⟨rfl, rfl⟩ := Exchange.yields_ofOutcome_iff.mp hrest
    exact ⟨rfl, rfl⟩
  · rintro ⟨rfl, rfl⟩
    exact Exchange.yields_call_bind_iff.mpr
      ⟨(), [], rfl, Exchange.yields_ofOutcome_iff.mpr ⟨rfl, rfl⟩⟩

theorem login_yields_iff {events : List Event} {outcome : Outcome Session} :
    a.login.Yields events outcome ↔
      ∃ made, events = ⟨.keep none, ()⟩ :: (made ++ closing outcome) ∧
        a.newSession.Yields made outcome := by
  constructor
  · intro h
    obtain ⟨answer, rest, rfl, hrest⟩ := Exchange.yields_call_bind_iff.mp h
    rcases Exchange.yields_bind_iff.mp hrest with ⟨made, session, last, rfl, hmade, hlast⟩ |
      ⟨failure, rfl, hmade⟩ | ⟨rfl, hmade⟩
    · obtain ⟨rfl, rfl⟩ := keepNew_yields_iff.mp hlast
      exact ⟨made, rfl, hmade⟩
    · exact ⟨rest, congrArg (List.cons _) (List.append_nil rest).symm, hmade⟩
    · exact ⟨rest, congrArg (List.cons _) (List.append_nil rest).symm, hmade⟩
  · rintro ⟨made, rfl, hmade⟩
    refine Exchange.yields_call_bind_iff.mpr ⟨(), _, rfl, Exchange.yields_bind_iff.mpr ?_⟩
    cases outcome with
    | ok session =>
        exact Or.inl ⟨made, session, closing (.ok session), rfl, hmade,
          keepNew_yields_iff.mpr ⟨rfl, rfl⟩⟩
    | failed failure => exact Or.inr (Or.inl ⟨failure, rfl, by simpa [closing] using hmade⟩)
    | overflow => exact Or.inr (Or.inr ⟨rfl, by simpa [closing] using hmade⟩)

/-- A login that has been stopped has not begun, works towards a session, or has one. -/
theorem login_begins {events : List Event} (h : a.login.Begins events) :
    events = [] ∨
      (∃ made, events = ⟨.keep none, ()⟩ :: made ∧ a.newSession.Begins made) ∨
      ∃ session, a.login.Yields events (.ok session) := by
  rcases Exchange.begins_call_bind_iff.mp h with rfl | ⟨answer, rest, rfl, hrest⟩
  · exact Or.inl rfl
  rcases Exchange.begins_bind_iff.mp hrest with hmade | ⟨made, session, last, rfl, hmade, hlast⟩
  · exact Or.inr (Or.inl ⟨rest, rfl, hmade⟩)
  rcases Exchange.begins_call_bind_iff.mp hlast with rfl | ⟨answer, last, rfl, hend⟩
  · exact Or.inr (Or.inl ⟨made, congrArg (List.cons _) (List.append_nil made), hmade.begins⟩)
  · obtain rfl := Exchange.begins_ofOutcome_iff.mp hend
    exact Or.inr (Or.inr ⟨session, login_yields_iff.mpr ⟨made, rfl, hmade⟩⟩)

theorem login_begins_keeping_none {events : List Event} (h : a.login.Begins events) :
    events = [] ∨ ∃ rest, events = ⟨.keep none, ()⟩ :: rest := by
  rcases login_begins h with rfl | ⟨made, rfl, _⟩ | ⟨session, hsession⟩
  · exact Or.inl rfl
  · exact Or.inr ⟨made, rfl⟩
  · obtain ⟨made, rfl, _⟩ := login_yields_iff.mp hsession
    exact Or.inr ⟨_, rfl⟩

theorem newSession_keeps_nothing {made : List Event} (h : a.newSession.Begins made) :
    ∀ event ∈ made, event.effect.isKeep = false := by
  intro event member
  exact ((newSession_only a).of_begins h event member).not_keep

/-- A login keeps sessions and works towards one, and does nothing else. -/
theorem login_only (a : CertificateAuthenticator) :
    a.login.Only fun effect => effect.isKeep = true ∨ a.WorksTowardsSession effect := by
  unfold login
  refine .bind (.call (Or.inl rfl)) fun _ => ?_
  refine .bind ((newSession_only a).mono fun _ h => Or.inr h) fun session => ?_
  exact .bind (.call (Or.inl rfl)) fun _ => .ofOutcome _

theorem login_asks_nothing {events : List Event} (h : a.login.Begins events) :
    ∀ event ∈ events, a.asksForToken event.effect = false := by
  intro event member
  rcases (login_only a).of_begins h event member with hkeep | hworks
  · exact not_asksForToken_of_keep hkeep
  · exact hworks.not_asksForToken

theorem login_stores_nothing {events : List Event} (h : a.login.Begins events) :
    ∀ event ∈ events, event.effect.isStore = false := by
  intro event member
  rcases (login_only a).of_begins h event member with hkeep | hworks
  · exact Effect.not_store_of_keep hkeep
  · exact hworks.not_store

theorem login_begins_once {events : List Event} {outcome : Outcome Session}
    (h : a.login.Yields events outcome) : events.countP (·.effect.beginsLogin) = 1 := by
  obtain ⟨made, rfl, hmade⟩ := login_yields_iff.mp h
  have hnone : made.countP (·.effect.beginsLogin) = 0 := by
    rw [List.countP_eq_zero]
    intro event member
    have hkeep := newSession_keeps_nothing hmade.begins event member
    rw [Effect.not_beginsLogin_of_not_keep hkeep]
    exact Bool.false_ne_true
  have hclosing : (closing outcome).countP (·.effect.beginsLogin) = 0 := by
    cases outcome <;> simp [closing, Effect.beginsLogin]
  rw [List.countP_cons, List.countP_append, hnone, hclosing]
  rfl

theorem keptAfter_login {events : List Event} {session : Session} (kept : Option Session)
    (h : a.login.Yields events (.ok session)) : keptAfter kept events = some session := by
  obtain ⟨made, rfl, hmade⟩ := login_yields_iff.mp h
  simp [closing, Effect.leaves]

/-- Wherever a login that has begun is stopped, it leaves no session or has run to its end. -/
theorem login_leaves {events : List Event} (h : a.login.Begins events) (hbegun : events ≠ [])
    (kept : Option Session) :
    keptAfter kept events = none ∨
      ∃ session, a.login.Yields events (.ok session) ∧ keptAfter kept events = some session := by
  rcases login_begins h with rfl | ⟨made, rfl, hmade⟩ | ⟨session, hsession⟩
  · exact (hbegun rfl).elim
  · left
    rw [Exchange.keptAfter_cons]
    exact Exchange.keptAfter_of_no_keep (newSession_keeps_nothing hmade)
  · exact Or.inr ⟨session, hsession, keptAfter_login kept hsession⟩

end CertificateAuthenticator

end WorkloadIdentity
