import WorkloadIdentity.Proofs.Certificate.Login
import WorkloadIdentity.Proofs.Exchange.Run

/-!
The steps of an authentication by a certificate. `Prescribed` says which steps there are and how
the whole ends, by the outcomes of the steps alone: a login where one is needed, a request, and
after a refusal of the certificate one more login and one more request. The main statement is that
an authentication performs prescribed steps, and that it may perform any of them.
-/

namespace WorkloadIdentity

/-- The outcome is the broker's refusal of an expired certificate. -/
def Outcome.isCertificateExpired {α : Type} : Outcome α → Bool
  | .failed failure => failure.isCertificateExpired
  | _ => false

/-- The outcome without its value. -/
def Outcome.withoutValue {α : Type} : Outcome α → Outcome Unit
  | .ok _ => .ok ()
  | .failed failure => .failed failure
  | .overflow => .overflow

namespace CertificateAuthenticator

open Exchange (Event)

/-- A step of an authentication with its outcome. -/
inductive Step where
  | login (outcome : Outcome Session)
  /-- A request for the access token in a session; a token that comes is handed over. -/
  | request (session : Session) (outcome : Outcome Unit)

namespace Step

def isLogin : Step → Bool
  | login _ => true
  | request .. => false

def isRequest : Step → Bool
  | login _ => false
  | request .. => true

/-- How an authentication ends whose last step this is. -/
def result : Step → Outcome Unit
  | login outcome => outcome.withoutValue
  | request _ outcome => outcome

end Step

/-- The steps up to the session that the first request is made in, if there is one. -/
inductive Opening : (needed : Bool) → (kept : Option Session) → List Step → Outcome Session → Prop
  | resumed (session : Session) : Opening false (some session) [] (.ok session)
  | renewed (kept : Option Session) (outcome : Outcome Session) :
      Opening true kept [.login outcome] outcome

/-- The steps that follow the first request, and how the authentication ends. -/
inductive Recovery (first : Outcome Unit) : List Step → Outcome Unit → Prop
  | notNeeded : first.isCertificateExpired = false → Recovery first [] first
  | refused {outcome : Outcome Session} : first.isCertificateExpired = true →
      (∀ session, outcome ≠ .ok session) →
      Recovery first [.login outcome] outcome.withoutValue
  | repeated (session : Session) (second : Outcome Unit) : first.isCertificateExpired = true →
      Recovery first [.login (.ok session), .request session second] second

/-- The steps of an authentication that finds a session kept or none, and needs a login first or
does not. -/
inductive Prescribed (needed : Bool) (kept : Option Session) : List Step → Outcome Unit → Prop
  | shut {opening : List Step} {outcome : Outcome Session} :
      Opening needed kept opening outcome → (∀ session, outcome ≠ .ok session) →
      Prescribed needed kept opening outcome.withoutValue
  | asked {opening more : List Step} {session : Session} {first outcome : Outcome Unit} :
      Opening needed kept opening (.ok session) → Recovery first more outcome →
      Prescribed needed kept (opening ++ .request session first :: more) outcome

namespace Prescribed

variable {needed : Bool} {kept : Option Session} {steps : List Step} {outcome : Outcome Unit}

theorem starts_with_login_iff (h : Prescribed needed kept steps outcome) :
    (∃ result rest, steps = .login result :: rest) ↔ needed = true := by
  cases h with
  | shut hopening _ => cases hopening <;> simp
  | asked hopening _ => cases hopening <;> simp

theorem logins_le (h : Prescribed needed kept steps outcome) : steps.countP Step.isLogin ≤ 2 := by
  cases h with
  | shut hopening _ => cases hopening <;> simp [Step.isLogin]
  | asked hopening hrecovery =>
      cases hopening <;> cases hrecovery <;> simp [List.countP_cons, Step.isLogin]

theorem requests_le (h : Prescribed needed kept steps outcome) :
    steps.countP Step.isRequest ≤ 2 := by
  cases h with
  | shut hopening _ => cases hopening <;> simp [Step.isRequest]
  | asked hopening hrecovery =>
      cases hopening <;> cases hrecovery <;> simp [List.countP_cons, Step.isRequest]

/-- The last step settles how the authentication ends. -/
theorem outcome_eq_result (h : Prescribed needed kept steps outcome) :
    ∃ last, steps.getLast? = some last ∧ outcome = last.result := by
  cases h with
  | @shut _ refusal hopening hrefusal =>
      cases hopening with
      | resumed session => exact (hrefusal session rfl).elim
      | renewed => exact ⟨.login refusal, rfl, rfl⟩
  | @asked _ _ session _ _ hopening hrecovery =>
      cases hrecovery with
      | notNeeded _ => exact ⟨.request session outcome, by simp, rfl⟩
      | @refused refusal _ _ => exact ⟨.login refusal, by simp, rfl⟩
      | repeated second _ _ => exact ⟨.request second outcome, by simp, rfl⟩

theorem ends_in_request (h : Prescribed needed kept steps (.ok ())) :
    ∃ before session, steps = before ++ [.request session (.ok ())] := by
  generalize hok : Outcome.ok () = outcome at h
  cases h with
  | @shut _ refusal _ hrefusal =>
      cases refusal with
      | ok session => exact (hrefusal session rfl).elim
      | failed failure => cases hok
      | overflow => cases hok
  | @asked opening _ session first _ _ hrecovery =>
      cases hrecovery with
      | notNeeded _ => exact ⟨opening, session, by rw [← hok]⟩
      | @refused refusal _ hrefusal =>
          cases refusal with
          | ok session => exact (hrefusal session rfl).elim
          | failed failure => cases hok
          | overflow => cases hok
      | repeated second _ _ =>
          refine ⟨opening ++ [.request session first, .login (.ok second)], second, ?_⟩
          rw [← hok]
          simp

/-- A request that succeeds is the last step. -/
theorem of_accepted {session : Session} (h : Prescribed needed kept steps outcome)
    (member : Step.request session (.ok ()) ∈ steps) : outcome = .ok () := by
  cases h with
  | shut hopening _ => cases hopening <;> simp at member
  | asked hopening hrecovery =>
      rcases List.mem_append.mp member with hopened | hasked
      · cases hopening <;> simp at hopened
      cases hrecovery with
      | notNeeded _ =>
          cases List.mem_singleton.mp hasked
          rfl
      | refused hrefused _ =>
          rcases List.mem_cons.mp hasked with hfirst | hlogin
          · cases hfirst
            cases hrefused
          · cases List.mem_singleton.mp hlogin
      | repeated _ _ hrefused =>
          rcases List.mem_cons.mp hasked with hfirst | hlater
          · cases hfirst
            cases hrefused
          rcases List.mem_cons.mp hlater with hlogin | hlast
          · cases hlogin
          · cases List.mem_singleton.mp hlast
            rfl

end Prescribed

variable {a : CertificateAuthenticator}

/-- The look at the clock at the start, which only a kept session asks for, and whether a login is
needed at that time. -/
inductive Reads (a : CertificateAuthenticator) : Option Session → List Event → Bool → Prop
  | noSession : Reads a none [] true
  | session (session : Session) (now : WallTime) :
      Reads a (some session) [⟨.now, now⟩] (a.needsLogin (some session) now)

theorem Reads.needed_eq {kept : Option Session} {reading : List Event} {needed : Bool}
    (h : a.Reads kept reading needed) :
    ∃ now, needed = a.needsLogin kept now ∧ ∀ event ∈ reading, event = ⟨.now, now⟩ := by
  cases h with
  | noSession => exact ⟨0, rfl, by simp⟩
  | session session now => exact ⟨now, rfl, by simp⟩

theorem Reads.of_session {session : Session} {reading : List Event} {needed : Bool}
    (h : a.Reads (some session) reading needed) :
    ∃ now, reading = [⟨.now, now⟩] ∧ needed = a.needsLogin (some session) now := by
  cases h with
  | session session now => exact ⟨now, rfl, rfl⟩

/-- The events of steps, one step after the other. -/
inductive Performs (a : CertificateAuthenticator) : List Step → List Event → Prop
  | nil : Performs a [] []
  | login {outcome : Outcome Session} {steps : List Step} {first rest : List Event} :
      a.login.Yields first outcome → Performs a steps rest →
      Performs a (.login outcome :: steps) (first ++ rest)
  | request {session : Session} {outcome : Outcome Unit} {steps : List Step}
      {first rest : List Event} :
      (a.obtain session).Yields first outcome → Performs a steps rest →
      Performs a (.request session outcome :: steps) (first ++ rest)

theorem Performs.append {steps more : List Step} {first rest : List Event}
    (hfirst : Performs a steps first) (hrest : Performs a more rest) :
    Performs a (steps ++ more) (first ++ rest) := by
  induction hfirst with
  | nil => exact hrest
  | login hlogin _ ih =>
      rw [List.append_assoc]
      exact .login hlogin ih
  | request hrequest _ ih =>
      rw [List.append_assoc]
      exact .request hrequest ih

theorem Performs.of_append {steps more : List Step} {events : List Event}
    (h : Performs a (steps ++ more) events) :
    ∃ first rest, events = first ++ rest ∧ Performs a steps first ∧ Performs a more rest := by
  induction steps generalizing events with
  | nil => exact ⟨[], events, rfl, .nil, h⟩
  | cons step steps ih =>
      cases h with
      | @login _ _ done _ hlogin hrest =>
          obtain ⟨first, rest, rfl, hfirst, hmore⟩ := ih hrest
          exact ⟨done ++ first, rest, by simp, .login hlogin hfirst, hmore⟩
      | @request _ _ _ done _ hrequest hrest =>
          obtain ⟨first, rest, rfl, hfirst, hmore⟩ := ih hrest
          exact ⟨done ++ first, rest, by simp, .request hrequest hfirst, hmore⟩

theorem performs_login_iff {outcome : Outcome Session} {events : List Event} :
    Performs a [.login outcome] events ↔ a.login.Yields events outcome := by
  constructor
  · rintro (_ | ⟨hlogin, hnil⟩)
    cases hnil
    simpa using hlogin
  · intro h
    simpa using Performs.login h .nil

theorem performs_request_iff {session : Session} {outcome : Outcome Unit}
    {events : List Event} :
    Performs a [.request session outcome] events ↔
      (a.obtain session).Yields events outcome := by
  constructor
  · rintro (_ | _ | ⟨hrequest, hnil⟩)
    cases hnil
    simpa using hrequest
  · intro h
    simpa using Performs.request h .nil

/-! ### The opening -/

theorem sessionFor_yields_iff {kept : Option Session} {events : List Event}
    {outcome : Outcome Session} :
    (a.sessionFor kept).Yields events outcome ↔
      ∃ reading needed steps performed, a.Reads kept reading needed ∧
        events = reading ++ performed ∧ Performs a steps performed ∧
        Opening needed kept steps outcome := by
  cases kept with
  | none =>
      constructor
      · intro h
        exact ⟨[], true, [.login outcome], events, .noSession, rfl, performs_login_iff.mpr h,
          .renewed none outcome⟩
      · rintro ⟨_, _, _, performed, hreads, rfl, hperformed, hopening⟩
        cases hreads
        cases hopening
        exact performs_login_iff.mp hperformed
  | some session =>
      constructor
      · intro h
        obtain ⟨now, rest, rfl, hrest⟩ := Exchange.yields_call_bind_iff.mp h
        split at hrest
        · next hneeded =>
            refine ⟨[⟨.now, now⟩], _, [.login outcome], rest, .session session now, rfl,
              performs_login_iff.mpr hrest, ?_⟩
            rw [hneeded]
            exact .renewed _ _
        · next hneeded =>
            obtain ⟨rfl, rfl⟩ := Exchange.yields_ofOutcome_iff.mp hrest
            refine ⟨[⟨.now, now⟩], _, [], [], .session session now, rfl, .nil, ?_⟩
            rw [Bool.eq_false_iff.mpr hneeded]
            exact .resumed session
      · rintro ⟨_, _, _, performed, hreads, rfl, hperformed, hopening⟩
        rcases hreads with _ | ⟨_, now⟩
        refine Exchange.yields_call_bind_iff.mpr ⟨now, performed, rfl, ?_⟩
        cases hneeded : a.needsLogin (some session) now with
        | true =>
            rw [hneeded] at hopening
            cases hopening
            rw [if_pos rfl]
            exact performs_login_iff.mp hperformed
        | false =>
            rw [hneeded] at hopening
            cases hopening
            cases hperformed
            rw [if_neg Bool.false_ne_true]
            exact Exchange.yields_ofOutcome_iff.mpr ⟨rfl, rfl⟩

/-! ### The whole -/

/-- What follows the first request. -/
def recovery (a : CertificateAuthenticator) (first : Outcome Unit) : Exchange Unit :=
  if first.isCertificateExpired then a.login >>= a.obtain else Exchange.ofOutcome first

theorem authenticate_eq (a : CertificateAuthenticator) (kept : Option Session) :
    a.authenticate kept =
      (a.sessionFor kept >>= fun session => (a.obtain session).followedBy a.recovery) := by
  unfold authenticate
  congr 1
  funext session
  rw [Exchange.settled_bind]
  congr 1
  funext first
  cases first <;> rfl

/-- One more login, and one more request only where it has succeeded. -/
theorem renewal_yields_iff {events : List Event} {outcome : Outcome Unit} :
    (a.login >>= a.obtain).Yields events outcome ↔
      (∃ refusal : Outcome Session, (∀ session, refusal ≠ .ok session) ∧
        outcome = refusal.withoutValue ∧ Performs a [.login refusal] events) ∨
      ∃ session, Performs a [.login (.ok session), .request session outcome] events := by
  rw [Exchange.yields_bind_iff]
  constructor
  · rintro (⟨first, session, rest, rfl, hlogin, hrequest⟩ | ⟨failure, rfl, hlogin⟩ |
      ⟨rfl, hlogin⟩)
    · exact Or.inr ⟨session, .login hlogin (performs_request_iff.mpr hrequest)⟩
    · exact Or.inl ⟨.failed failure, by simp, rfl, performs_login_iff.mpr hlogin⟩
    · exact Or.inl ⟨.overflow, by simp, rfl, performs_login_iff.mpr hlogin⟩
  · rintro (⟨refusal, hrefusal, rfl, hperforms⟩ | ⟨session, hperforms⟩)
    · have hlogin := performs_login_iff.mp hperforms
      cases refusal with
      | ok session => exact (hrefusal session rfl).elim
      | failed failure => exact Or.inr (Or.inl ⟨failure, rfl, hlogin⟩)
      | overflow => exact Or.inr (Or.inr ⟨rfl, hlogin⟩)
    · rcases hperforms with _ | ⟨hlogin, hrest⟩
      exact Or.inl ⟨_, session, _, rfl, hlogin, performs_request_iff.mp hrest⟩

theorem recovery_yields_iff {first outcome : Outcome Unit} {events : List Event} :
    (a.recovery first).Yields events outcome ↔
      ∃ more, Performs a more events ∧ Recovery first more outcome := by
  cases hexpired : first.isCertificateExpired with
  | false =>
      rw [recovery, hexpired, if_neg Bool.false_ne_true]
      constructor
      · intro h
        obtain ⟨rfl, rfl⟩ := Exchange.yields_ofOutcome_iff.mp h
        exact ⟨[], .nil, .notNeeded hexpired⟩
      · rintro ⟨more, hperforms, hrecovery⟩
        cases hrecovery with
        | notNeeded _ =>
            cases hperforms
            exact Exchange.yields_ofOutcome_iff.mpr ⟨rfl, rfl⟩
        | refused h _ => simp [h] at hexpired
        | repeated _ _ h => simp [h] at hexpired
  | true =>
      rw [recovery, hexpired, if_pos rfl, renewal_yields_iff]
      constructor
      · rintro (⟨refusal, hrefusal, rfl, hperforms⟩ | ⟨second, hperforms⟩)
        · exact ⟨_, hperforms, .refused hexpired hrefusal⟩
        · exact ⟨_, hperforms, .repeated second outcome hexpired⟩
      · rintro ⟨more, hperforms, hrecovery⟩
        cases hrecovery with
        | notNeeded h => simp [h] at hexpired
        | refused _ hrefusal => exact Or.inl ⟨_, hrefusal, rfl, hperforms⟩
        | repeated second _ _ => exact Or.inr ⟨second, hperforms⟩

/-- A request and what follows it. -/
theorem asking_yields_iff {session : Session} {events : List Event} {outcome : Outcome Unit} :
    ((a.obtain session).followedBy a.recovery).Yields events outcome ↔
      ∃ first more, Performs a (.request session first :: more) events ∧
        Recovery first more outcome := by
  constructor
  · intro h
    obtain ⟨asked, first, rest, rfl, hasked, hrest⟩ := Exchange.yields_followedBy_iff.mp h
    obtain ⟨more, hperforms, hrecovery⟩ := recovery_yields_iff.mp hrest
    exact ⟨first, more, .request hasked hperforms, hrecovery⟩
  · rintro ⟨first, more, hperforms, hrecovery⟩
    rcases hperforms with _ | _ | ⟨hasked, hmore⟩
    exact Exchange.yields_followedBy_iff.mpr
      ⟨_, first, _, rfl, hasked, recovery_yields_iff.mpr ⟨more, hmore, hrecovery⟩⟩

/-- A whole authentication performs the prescribed steps, and may perform any of them. -/
theorem authenticate_yields_iff {kept : Option Session} {events : List Event}
    {outcome : Outcome Unit} :
    (a.authenticate kept).Yields events outcome ↔
      ∃ reading needed steps performed, a.Reads kept reading needed ∧
        events = reading ++ performed ∧ Performs a steps performed ∧
        Prescribed needed kept steps outcome := by
  rw [authenticate_eq, Exchange.yields_bind_iff]
  constructor
  · rintro (⟨opened, session, asked, rfl, hopened, hasked⟩ | ⟨failure, rfl, hopened⟩ |
      ⟨rfl, hopened⟩)
    · obtain ⟨reading, needed, steps, performed, hreads, rfl, hperforms, hopening⟩ :=
        sessionFor_yields_iff.mp hopened
      obtain ⟨first, more, hasked, hrecovery⟩ := asking_yields_iff.mp hasked
      exact ⟨reading, needed, _, performed ++ asked, hreads, by simp, hperforms.append hasked,
        .asked hopening hrecovery⟩
    · obtain ⟨reading, needed, steps, performed, hreads, rfl, hperforms, hopening⟩ :=
        sessionFor_yields_iff.mp hopened
      exact ⟨reading, needed, steps, performed, hreads, rfl, hperforms, .shut hopening (by simp)⟩
    · obtain ⟨reading, needed, steps, performed, hreads, rfl, hperforms, hopening⟩ :=
        sessionFor_yields_iff.mp hopened
      exact ⟨reading, needed, steps, performed, hreads, rfl, hperforms, .shut hopening (by simp)⟩
  · rintro ⟨reading, needed, steps, performed, hreads, rfl, hperforms, hprescribed⟩
    cases hprescribed with
    | @shut _ refusal hopening hrefusal =>
        have hopened := sessionFor_yields_iff.mpr
          ⟨reading, needed, steps, performed, hreads, rfl, hperforms, hopening⟩
        cases refusal with
        | ok session => exact (hrefusal session rfl).elim
        | failed failure => exact Or.inr (Or.inl ⟨failure, rfl, hopened⟩)
        | overflow => exact Or.inr (Or.inr ⟨rfl, hopened⟩)
    | @asked _ more session first _ hopening hrecovery =>
        obtain ⟨opened, asked, rfl, hopened, hasked⟩ := hperforms.of_append
        refine Or.inl ⟨reading ++ opened, session, asked, by simp, ?_, ?_⟩
        · exact sessionFor_yields_iff.mpr
            ⟨reading, needed, _, opened, hreads, rfl, hopened, hopening⟩
        · exact asking_yields_iff.mpr ⟨first, more, hasked, hrecovery⟩

/-! ### What the events show -/

theorem Performs.logins_eq {steps : List Step} {events : List Event} (h : Performs a steps events) :
    events.countP (·.effect.beginsLogin) = steps.countP Step.isLogin := by
  induction h with
  | nil => rfl
  | @login outcome steps first rest hlogin _ ih =>
      rw [List.countP_append, login_begins_once hlogin, ih, List.countP_cons_of_pos rfl]
      exact Nat.add_comm _ _
  | @request session outcome steps first rest hrequest _ ih =>
      have hfirst : first.countP (·.effect.beginsLogin) = 0 := by
        cases Exchange.obtain_yields_iff.mp hrequest <;> simp [Effect.beginsLogin]
      rw [List.countP_append, hfirst, ih]
      simp [Step.isLogin]

theorem Performs.requests_le {steps : List Step} {events : List Event}
    (h : Performs a steps events) :
    events.countP (a.asksForToken ·.effect) ≤ steps.countP Step.isRequest := by
  induction h with
  | nil => simp
  | @login outcome steps first rest hlogin _ ih =>
      have hfirst : first.countP (a.asksForToken ·.effect) = 0 := by
        rw [List.countP_eq_zero]
        intro event member
        simp [login_asks_nothing hlogin.begins event member]
      rw [List.countP_append, hfirst]
      simpa [Step.isRequest] using ih
  | @request session outcome steps first rest hrequest _ ih =>
      have hfirst : first.countP (a.asksForToken ·.effect) ≤ 1 := by
        cases Exchange.obtain_yields_iff.mp hrequest with
        | notBuilt _ => simp
        | refused _ _ => exact List.countP_le_length
        | handedOver _ _ => simp [List.countP_cons, asksForToken]; split <;> omega
      rw [List.countP_append, List.countP_cons]
      simp [Step.isRequest]
      omega

/-- A token that was taken belongs to a request that has succeeded. -/
theorem Performs.of_taken {steps : List Step} {events : List Event} {content : Bytes}
    (h : Performs a steps events) (member : ⟨.store content, .ok ()⟩ ∈ events) :
    ∃ session, Step.request session (.ok ()) ∈ steps := by
  induction h with
  | nil => simp at member
  | @login outcome steps first rest hlogin _ ih =>
      rcases List.mem_append.mp member with hfirst | hrest
      · have hstore := login_stores_nothing hlogin.begins _ hfirst
        simp [Effect.isStore] at hstore
      · obtain ⟨session, hsession⟩ := ih hrest
        exact ⟨session, List.mem_cons_of_mem _ hsession⟩
  | @request session outcome steps first rest hrequest _ ih =>
      rcases List.mem_append.mp member with hfirst | hrest
      · refine ⟨session, ?_⟩
        cases Exchange.obtain_yields_iff.mp hrequest with
        | notBuilt _ => simp at hfirst
        | refused _ _ =>
            rcases List.mem_cons.mp hfirst with hfirst | hfirst
            · cases hfirst
            · simp at hfirst
        | handedOver _ _ =>
            rcases List.mem_cons.mp hfirst with hfirst | hfirst
            · cases hfirst
            · cases List.mem_singleton.mp hfirst
              exact List.mem_cons_self
      · obtain ⟨session, hsession⟩ := ih hrest
        exact ⟨session, List.mem_cons_of_mem _ hsession⟩

/-- The events end with an answer to the request for the token that is a success, and with its
content being taken. -/
def HandsOver (a : CertificateAuthenticator) (events : List Event) : Prop :=
  ∃ before client request response content,
    events = before ++ [⟨.send client request, .ok response⟩, ⟨.store content, .ok ()⟩] ∧
      a.tokenRequest = .ok request ∧ response.isSuccess = true ∧ response.body = some content

theorem authenticate_ok_iff {kept : Option Session} {events : List Event} {outcome : Outcome Unit}
    (h : (a.authenticate kept).Yields events outcome) :
    outcome = .ok () ↔ a.HandsOver events := by
  obtain ⟨reading, needed, steps, performed, hreads, rfl, hperforms, hprescribed⟩ :=
    authenticate_yields_iff.mp h
  constructor
  · rintro rfl
    obtain ⟨before, session, rfl⟩ := hprescribed.ends_in_request
    obtain ⟨first, last, rfl, _, hlast⟩ := hperforms.of_append
    have hobtained := Exchange.obtain_yields_iff.mp (performs_request_iff.mp hlast)
    generalize hok : Outcome.ok () = outcome at hobtained
    cases hobtained with
    | notBuilt _ => cases hok
    | refused _ _ => cases hok
    | @handedOver built answer content stored hbuilt htoken =>
        cases stored with
        | error failure => cases hok
        | ok value =>
            obtain ⟨response, rfl, hsuccess, hbody⟩ := Exchange.token_eq_ok_iff.mp htoken
            exact ⟨reading ++ first, session.client, built, response, content, by simp, hbuilt,
              hsuccess, hbody⟩
  · rintro ⟨before, client, request, response, content, hevents, _⟩
    have hmember : (⟨.store content, .ok ()⟩ : Event) ∈ reading ++ performed := by
      rw [hevents]
      simp
    have hperformed : (⟨.store content, .ok ()⟩ : Event) ∈ performed := by
      rcases List.mem_append.mp hmember with hreading | hperformed
      · obtain ⟨now, _, honly⟩ := hreads.needed_eq
        cases honly _ hreading
      · exact hperformed
    obtain ⟨session, hrequest⟩ := hperforms.of_taken hperformed
    exact hprescribed.of_accepted hrequest

theorem authenticate_counts {kept : Option Session} {events : List Event} {outcome : Outcome Unit}
    (h : (a.authenticate kept).Yields events outcome) :
    events.countP (·.effect.beginsLogin) ≤ 2 ∧ events.countP (a.asksForToken ·.effect) ≤ 2 := by
  obtain ⟨reading, needed, steps, performed, hreads, rfl, hperforms, hprescribed⟩ :=
    authenticate_yields_iff.mp h
  obtain ⟨now, _, honly⟩ := hreads.needed_eq
  have hlogins : reading.countP (·.effect.beginsLogin) = 0 := by
    rw [List.countP_eq_zero]
    intro event member
    simp [honly event member, Effect.beginsLogin]
  have hrequests : reading.countP (a.asksForToken ·.effect) = 0 := by
    rw [List.countP_eq_zero]
    intro event member
    simp [honly event member, asksForToken]
  rw [List.countP_append, List.countP_append, hlogins, hrequests, hperforms.logins_eq]
  have hlogins_le := hprescribed.logins_le
  have hrequests_le := hprescribed.requests_le
  have hperformed := hperforms.requests_le
  omega

/-- The steps of a whole authentication are the prescribed ones, and any of them may be taken,
whatever is answered. A login comes first exactly where one is needed; there are no more than two
logins and two requests for the token; the last step settles the outcome; and the outcome is a
success exactly where the last answer to a request for the token is one and its content was
taken. -/
theorem authenticate_takes_prescribed_steps (a : CertificateAuthenticator) (kept : Option Session)
    (events : List Event) (outcome : Outcome Unit) :
    ((a.authenticate kept).Yields events outcome ↔
      ∃ reading needed steps performed, a.Reads kept reading needed ∧
        events = reading ++ performed ∧ a.Performs steps performed ∧
        Prescribed needed kept steps outcome) ∧
    (∀ reading needed, a.Reads kept reading needed →
      ∃ now, needed = a.needsLogin kept now ∧ ∀ event ∈ reading, event = ⟨.now, now⟩) ∧
    (∀ needed steps, Prescribed needed kept steps outcome →
      ((∃ result rest, steps = .login result :: rest) ↔ needed = true) ∧
        ∃ last, steps.getLast? = some last ∧ outcome = last.result) ∧
    ((a.authenticate kept).Yields events outcome →
      events.countP (·.effect.beginsLogin) ≤ 2 ∧ events.countP (a.asksForToken ·.effect) ≤ 2 ∧
        (outcome = .ok () ↔ a.HandsOver events)) := by
  refine ⟨authenticate_yields_iff, fun _ _ h => h.needed_eq, ?_, ?_⟩
  · intro needed steps h
    exact ⟨h.starts_with_login_iff, h.outcome_eq_result⟩
  · intro h
    obtain ⟨hlogins, hrequests⟩ := authenticate_counts h
    exact ⟨hlogins, hrequests, authenticate_ok_iff h⟩

/-! ### A run -/

namespace Sample

/-- A certificate that is valid through the year 2026. -/
def certificate : Bytes := Utf8.ofString
  "-----BEGIN CERTIFICATE-----
MEAwNgIBATADBgEqMAAwHhcNMjYwMTAxMDAwMDAwWhcNMjcwMTAxMDAwMDAwWjAAMAgwAwYBKgMBADADBgEqAwEA
-----END CERTIFICATE-----
"

def authenticator : CertificateAuthenticator where
  settings := {
    baseUrl := "https://broker/authn"
    account := "org"
    identity := ⟨["app".toList], by decide, by decide⟩
    authority := []
    podName := "pod"
    podNamespace := "ns"
    certificatePath := "client.pem"
    retryLimit := 0
    pollInterval := .zero
    expiryBuffer := .zero
    version := .v5
    requestTimeout := .zero }
  connector := { pool := ⟨[]⟩, timeout := .zero }
  key := ⟨1⟩

/-- The broker takes a signing request and writes the certificate. -/
def signed : Reply where
  answer := .ok ⟨200, some []⟩
  took := .zero
  files := [("client.pem", certificate)]

/-- The broker refuses the certificate as expired. -/
def expired : Reply where
  answer := .ok ⟨401, some (Utf8.ofString "\x7b\"code\":\"cert_expired\"\x7d")⟩
  took := .zero
  files := []

def granted : Reply where
  answer := .ok ⟨200, some (Utf8.ofString "tok")⟩
  took := .zero
  files := []

/-- A world in the first instant of that year, with these replies to come. -/
def world (replies : List Reply) : World :=
  { World.quiet 1767225600000000000 .empty (.forPath none) with replies }

end Sample

theorem authenticate_takes_prescribed_steps_refused_once :
    let p := Sample.authenticator.authenticate none
    let w := Sample.world [Sample.signed, Sample.expired, Sample.signed, Sample.granted]
    (p.run w).1 = .ok () ∧ Sample.authenticator.HandsOver (p.eventsIn w) := by
  intro p w
  have hok : (p.run w).1 = .ok () := by decide +kernel
  have hsteps := authenticate_takes_prescribed_steps Sample.authenticator none (p.eventsIn w)
    (p.run w).1
  exact ⟨hok, (hsteps.2.2.2 (p.yields_eventsIn w)).2.2.mp hok⟩

end CertificateAuthenticator

end WorkloadIdentity
