import WorkloadIdentity.Authenticator
import WorkloadIdentity.Proofs.Certificate.Sessions
import WorkloadIdentity.Proofs.FileSystem.TokenFile

/-!
When an authentication hands the access token over. With every strategy this is the last effect,
right after the broker's answer; an authentication that hands nothing over fails.
-/

namespace WorkloadIdentity

open Exchange (Event)

/-- How an authentication ends: it hands nothing over and fails, or the last thing that it does is
to hand over what the broker has just answered. -/
inductive Handover : List Event → Outcome Unit → Prop
  | never {events : List Event} {outcome : Outcome Unit} :
      (∀ event ∈ events, event.effect.isStore = false) → outcome ≠ .ok () →
      Handover events outcome
  | last {before : List Event} {client : Client} {request : Request} {response : Response}
      {content : Bytes} {stored : Except Failure Unit} :
      (∀ event ∈ before, event.effect.isStore = false) → request.method = .post →
      response.isSuccess = true → response.body = some content →
      Handover (before ++ [⟨.send client request, .ok response⟩, ⟨.store content, stored⟩])
        (.ofExcept stored)

namespace Handover

theorem append {first rest : List Event} {outcome : Outcome Unit}
    (hfirst : ∀ event ∈ first, event.effect.isStore = false) (h : Handover rest outcome) :
    Handover (first ++ rest) outcome := by
  cases h with
  | never hrest hfailed =>
      refine .never ?_ hfailed
      intro event member
      rcases List.mem_append.mp member with member | member
      · exact hfirst event member
      · exact hrest event member
  | @last before client request response content stored hbefore hpost hsuccess hbody =>
      rw [← List.append_assoc]
      refine .last ?_ hpost hsuccess hbody
      intro event member
      rcases List.mem_append.mp member with member | member
      · exact hfirst event member
      · exact hbefore event member

theorem cons {event : Event} {rest : List Event} {outcome : Outcome Unit}
    (hfirst : event.effect.isStore = false) (h : Handover rest outcome) :
    Handover (event :: rest) outcome := by
  have hwhole : Handover ([event] ++ rest) outcome := .append (by simpa using hfirst) h
  exact hwhole

theorem of_obtained {client : Client} {request : Except TransportFault Request}
    {events : List Event} {outcome : Outcome Unit}
    (hpost : ∀ built, request = .ok built → built.method = .post)
    (h : Exchange.Obtained client request events outcome) : Handover events outcome := by
  cases h with
  | notBuilt _ => exact .never (by simp) (by simp)
  | refused _ _ => exact .never (by simp [Effect.isStore]) (by simp)
  | @handedOver built answer content stored hbuilt htoken =>
      obtain ⟨response, rfl, hsuccess, hbody⟩ := Exchange.token_eq_ok_iff.mp htoken
      have hlast : Handover
          ([] ++ [⟨.send client built, .ok response⟩, ⟨.store content, stored⟩])
          (.ofExcept stored) :=
        .last (by simp) (hpost built hbuilt) hsuccess hbody
      exact hlast

/-- Nothing is handed over before the last effect. -/
theorem stores_last {first rest : List Event} {outcome : Outcome Unit}
    (h : Handover (first ++ rest) outcome) (hrest : rest ≠ []) :
    ∀ event ∈ first, event.effect.isStore = false := by
  generalize hevents : first ++ rest = events at h
  cases h with
  | never hnone _ =>
      intro event member
      exact hnone event (by simp [← hevents, member])
  | @last before client request response content stored hbefore _ _ _ =>
      rcases List.eq_nil_or_concat rest with rfl | ⟨middle, final, rfl⟩
      · exact (hrest rfl).elim
      · have hwhole : (first ++ middle) ++ [final] =
            (before ++ [⟨.send client request, .ok response⟩]) ++ [⟨.store content, stored⟩] := by
          simpa using hevents
        have hfront := (List.append_inj' hwhole rfl).1
        intro event member
        have hmember : event ∈ before ++ [⟨.send client request, .ok response⟩] := by
          rw [← hfront]
          simp [member]
        rcases List.mem_append.mp hmember with hmember | hmember
        · exact hbefore event hmember
        · cases List.mem_singleton.mp hmember
          rfl

end Handover

theorem Exchange.ofToken_handover {connector : Connector} {address token : String}
    {events : List Event} {outcome : Outcome Unit}
    (h : (Exchange.ofToken connector address token).Yields events outcome) :
    Handover events outcome :=
  .of_obtained (fun _ hbuilt => (Request.build_eq hbuilt).1) (Exchange.obtain_yields_iff.mp h)

theorem BearerAuthenticator.authenticate_handover {a : BearerAuthenticator} {events : List Event}
    {outcome : Outcome Unit} (h : a.authenticate.Yields events outcome) :
    Handover events outcome := by
  obtain ⟨content, rest, rfl, hrest⟩ := Exchange.yields_call_bind_iff.mp h
  refine .cons rfl ?_
  rw [Exchange.ofExcept_bind] at hrest
  split at hrest
  · exact Exchange.ofToken_handover hrest
  · obtain ⟨rfl, rfl⟩ := Exchange.yields_ofOutcome_iff.mp hrest
    exact .never (by simp) (by simp)

theorem MetadataAuthenticator.authenticate_handover {a : MetadataAuthenticator}
    {events : List Event} {outcome : Outcome Unit} (h : a.authenticate.Yields events outcome) :
    Handover events outcome := by
  have hresponse {events : List Event} {answer : Outcome (Except TransportFault Response)}
      (h : (Exchange.response a.connector.client a.tokenRequest).Yields events answer) :
      ∀ event ∈ events, event.effect.isStore = false := by
    rcases Exchange.response_yields_iff.mp h with ⟨_, _, _, rfl, _⟩ | ⟨_, _, rfl, _⟩
    · simp [Effect.isStore]
    · simp
  rcases Exchange.yields_bind_iff.mp h with ⟨asked, answer, rest, rfl, hasked, hrest⟩ |
    ⟨failure, rfl, hasked⟩ | ⟨rfl, hasked⟩
  · refine .append (hresponse hasked) ?_
    rw [Exchange.ofExcept_bind] at hrest
    split at hrest
    · exact Exchange.ofToken_handover hrest
    · obtain ⟨rfl, rfl⟩ := Exchange.yields_ofOutcome_iff.mp hrest
      exact .never (by simp) (by simp)
  · exact .never (hresponse hasked) (by simp)
  · exact .never (hresponse hasked) (by simp)

namespace CertificateAuthenticator

variable {a : CertificateAuthenticator}

theorem tokenRequest_post {built : Request} (h : a.tokenRequest = .ok built) :
    built.method = .post :=
  (Request.build_eq h).1

private theorem sessionFor_stores_nothing {kept : Option Session} {events : List Event}
    {outcome : Outcome Session} (h : (a.sessionFor kept).Yields events outcome) :
    ∀ event ∈ events, event.effect.isStore = false := by
  obtain ⟨reading, begun, rfl, hreading, hbegun⟩ := sessionFor_begins h.begins
  intro event member
  rcases List.mem_append.mp member with member | member
  · rw [hreading event member]
    rfl
  · exact login_stores_nothing hbegun event member

private theorem renewal_handover {events : List Event} {outcome : Outcome Unit}
    (h : (a.login >>= a.obtain).Yields events outcome) : Handover events outcome := by
  rcases Exchange.yields_bind_iff.mp h with ⟨renewed, session, asked, rfl, hrenewed, hasked⟩ |
    ⟨failure, rfl, hrenewed⟩ | ⟨rfl, hrenewed⟩
  · exact .append (login_stores_nothing hrenewed.begins)
      (.of_obtained (fun _ => tokenRequest_post) (Exchange.obtain_yields_iff.mp hasked))
  · exact .never (login_stores_nothing hrenewed.begins) (by simp)
  · exact .never (login_stores_nothing hrenewed.begins) (by simp)

/-- A store that has refused the token must not look like a broker that has refused the
certificate, as this would lead to another request. -/
theorem authenticate_handover {kept : Option Session} {events : List Event}
    {outcome : Outcome Unit} (h : (a.authenticate kept).Yields events outcome)
    (hstores : ∀ token failure, (⟨.store token, .error failure⟩ : Event) ∈ events →
      failure.isCertificateExpired = false) : Handover events outcome := by
  rw [authenticate_eq] at h
  rcases Exchange.yields_bind_iff.mp h with ⟨opened, session, asked, rfl, hopened, hasked⟩ |
    ⟨failure, rfl, hopened⟩ | ⟨rfl, hopened⟩
  · refine .append (sessionFor_stores_nothing hopened) ?_
    obtain ⟨first, middle, rest, rfl, hfirst, hrest⟩ := Exchange.yields_followedBy_iff.mp hasked
    have hobtained := Exchange.obtain_yields_iff.mp hfirst
    cases hexpired : middle.isCertificateExpired with
    | false =>
        rw [recovery, hexpired, if_neg Bool.false_ne_true] at hrest
        obtain ⟨rfl, rfl⟩ := Exchange.yields_ofOutcome_iff.mp hrest
        rw [List.append_nil]
        exact .of_obtained (fun _ => tokenRequest_post) hobtained
    | true =>
        rw [recovery, hexpired, if_pos rfl] at hrest
        refine .append ?_ (renewal_handover hrest)
        cases hobtained with
        | notBuilt _ => simp
        | refused _ _ => simp [Effect.isStore]
        | @handedOver _ _ content stored _ _ =>
            cases stored with
            | ok value => cases hexpired
            | error failure =>
                have hnot := hstores content failure (by simp)
                rw [Outcome.ofExcept, Outcome.isCertificateExpired, hnot] at hexpired
                cases hexpired
  · exact .never (sessionFor_stores_nothing hopened) (by simp)
  · exact .never (sessionFor_stores_nothing hopened) (by simp)

end CertificateAuthenticator

theorem Authenticator.authenticate_handover {a : Authenticator} {kept : Option Session}
    {events : List Event} {outcome : Outcome Unit}
    (h : (a.authenticate kept).Yields events outcome)
    (hstores : ∀ token failure, (⟨.store token, .error failure⟩ : Event) ∈ events →
      failure.isCertificateExpired = false) : Handover events outcome := by
  cases a with
  | certificate a => exact CertificateAuthenticator.authenticate_handover h hstores
  | bearer a => exact BearerAuthenticator.authenticate_handover h
  | metadata a => exact MetadataAuthenticator.authenticate_handover h

/-! ### Files -/

/-- The effect cannot touch a file at a place: if it is a call to the file system at all, it reads
or it removes a file elsewhere. -/
def Effect.Spares (place : Place) : Effect → Prop
  | .file (.read _) => True
  | .file (.remove path) => place ≠ path.place
  | .file _ | .store _ => False
  | _ => True

/-- The file that an authentication removes. -/
def Authenticator.removed? : Authenticator → Option Path
  | .certificate a => some a.settings.certificatePath
  | .bearer _ | .metadata _ => none

/-- The effects of an authentication with a token's file at a place. -/
def Effect.IsFitting (place : Place) (effect : Effect) : Prop :=
  effect.isStore = true ∨ effect.Spares place

variable {place : Place}

theorem Exchange.obtain_fitting (client : Client) (request : Except TransportFault Request) :
    (Exchange.obtain client request).Only (Effect.IsFitting place) := by
  have hresponse : (Exchange.response client request).Only (Effect.IsFitting place) := by
    cases request with
    | ok built => exact .call (Or.inr trivial)
    | error fault => exact .ofOutcome _
  exact .bind hresponse fun _ => .bind (.ofOutcome _) fun _ =>
    .bind (.call (Or.inl rfl)) fun _ => .ofOutcome _

namespace CertificateAuthenticator

variable {a : CertificateAuthenticator}

theorem login_fitting (hplace : place ≠ a.settings.certificatePath.place) :
    a.login.Only (Effect.IsFitting place) := by
  apply (login_only a).mono
  intro effect h
  cases effect with
  | file call =>
      rcases h with hkeep | rfl | rfl
      · cases hkeep
      · exact Or.inr trivial
      · exact Or.inr hplace
  | store token =>
      rcases h with hkeep | hworks
      · cases hkeep
      · exact hworks.elim
  | _ => exact Or.inr trivial

theorem authenticate_fitting (hplace : place ≠ a.settings.certificatePath.place)
    (kept : Option Session) : (a.authenticate kept).Only (Effect.IsFitting place) := by
  have hlogin := login_fitting hplace
  have hsession : (a.sessionFor kept).Only (Effect.IsFitting place) := by
    cases kept with
    | none => exact hlogin
    | some session =>
        refine .bind (.call (Or.inr trivial)) fun now => ?_
        split
        · exact hlogin
        · exact .ofOutcome _
  have hrecovery (first : Outcome Unit) : (a.recovery first).Only (Effect.IsFitting place) := by
    unfold recovery
    split
    · exact .bind hlogin fun session => Exchange.obtain_fitting _ _
    · exact .ofOutcome _
  rw [authenticate_eq]
  exact .bind hsession fun session => .andThen (Exchange.obtain_fitting _ _) hrecovery

end CertificateAuthenticator

theorem Authenticator.authenticate_fitting {a : Authenticator}
    (hplace : ∀ path, a.removed? = some path → place ≠ path.place) (kept : Option Session) :
    (a.authenticate kept).Only (Effect.IsFitting place) := by
  cases a with
  | certificate a => exact CertificateAuthenticator.authenticate_fitting (hplace _ rfl) kept
  | bearer a =>
      exact .bind (.call (Or.inr trivial)) fun _ => .bind (.ofOutcome _) fun _ =>
        Exchange.obtain_fitting _ _
  | metadata a =>
      have hresponse : (Exchange.response a.connector.client a.tokenRequest).Only
          (Effect.IsFitting place) := by
        cases a.tokenRequest with
        | ok built => exact .call (Or.inr trivial)
        | error fault => exact .ofOutcome _
      exact .bind hresponse fun _ => .bind (.ofOutcome _) fun _ => Exchange.obtain_fitting _ _

end WorkloadIdentity
