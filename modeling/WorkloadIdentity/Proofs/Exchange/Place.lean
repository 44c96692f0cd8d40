import WorkloadIdentity.Exchange.Endpoint
import WorkloadIdentity.Proofs.Text.Blank
import WorkloadIdentity.Proofs.Url.Extension
import WorkloadIdentity.Settings.Derived

/-!
The addresses at which the broker is asked. Each of them is the address of the settings with a slash
and more behind it, so it goes to the broker of the settings or nowhere: an account or an identity
cannot lead a request, or the secret in it, to another host.
-/

namespace WorkloadIdentity

/-! ### The address of the settings -/

namespace Settings

variable {s : Settings} {base : String}

/-- An accepted address is a secure URL. -/
theorem parse_of_baseUrl (h : s.baseUrl = .ok base) :
    ∃ own, Url.parse base.toList = .ok own ∧ own.scheme = "https".toList := by
  unfold baseUrl at h
  dsimp only at h
  split at h
  · cases h
  · split at h
    · cases h
    · next own hown =>
        split at h
        · next hscheme =>
            cases h
            exact ⟨own, hown, hscheme⟩
        · cases h

/-- It is what is written but for blanks around it and slashes at its end. -/
theorem authnUrl_of_baseUrl (h : s.baseUrl = .ok base) :
    ∃ lead slashes trail, (∀ c ∈ lead, Text.isBlank c = true) ∧ (∀ c ∈ slashes, c = '/') ∧
      (∀ c ∈ trail, Text.isBlank c = true) ∧
      s.authnUrl.toList = lead ++ (base.toList ++ (slashes ++ trail)) := by
  have hbase : base.toList = (Text.trim s.authnUrl.toList).rdropWhile (· == '/') := by
    unfold baseUrl at h
    dsimp only at h
    split at h
    · cases h
    · split at h
      · cases h
      · split at h
        · cases h
          exact String.toList_ofList
        · cases h
  obtain ⟨lead, trail, hlead, htrail, htrim⟩ := Text.exists_trim s.authnUrl.toList
  refine ⟨lead, (Text.trim s.authnUrl.toList).rtakeWhile (· == '/'), trail, hlead, ?_, htrail, ?_⟩
  · intro c hc
    simpa using List.mem_rtakeWhile_imp hc
  · rw [hbase, ← List.append_assoc (List.rdropWhile _ _), List.rdropWhile_append_rtakeWhile]
    exact htrim

end Settings

/-! ### Places -/

namespace Endpoint

/-- What the broker is asked for. An exchange names an identity or leaves it to the token. -/
inductive Place where
  | login
  | authenticate (version : ApiVersion)
  | exchange (named : Bool)
deriving DecidableEq, Repr

/-- Where it is asked for that. -/
def Place.address (baseUrl account identity : String) : Place → String
  | .login => Endpoint.login baseUrl
  | .authenticate version => Endpoint.authenticate baseUrl account identity version
  | .exchange named => Endpoint.exchange baseUrl account (if named then some identity else none)

/-- The segments that name a place. -/
def Place.segments (account identity : String) : Place → List String
  | .login => ["inject_client_cert"]
  | .authenticate .v5 => [account, identity, "authenticate"]
  | .authenticate .v4 => ["users", identity, "authenticate"]
  | .exchange true => [account, identity, "authenticate"]
  | .exchange false => [account, "authenticate"]

/-- An address is the one of the settings and the segments of the place, each with a slash. -/
theorem Place.toList_address (baseUrl account identity : String) (place : Place) :
    (place.address baseUrl account identity).toList = baseUrl.toList ++
      (place.segments account (encodedIdentity identity)).flatMap ('/' :: ·.toList) := by
  rcases place with _ | (_ | _) | (_ | _)
  all_goals simp [address, segments, Endpoint.login, Endpoint.authenticate, Endpoint.exchange]

theorem Place.exists_address (baseUrl account identity : String) (place : Place) :
    ∃ rest, (place.address baseUrl account identity).toList = baseUrl.toList ++ '/' :: rest := by
  rw [place.toList_address]
  rcases place with _ | (_ | _) | (_ | _)
  all_goals exact ⟨_, rfl⟩

/-- A secure URL for whose requests the given authority answers: with its host and port, and with
its user and secret. -/
def AnsweredBy (broker : Url.Authority) (url : Url) : Prop :=
  url.scheme = "https".toList ∧ url.authority = some broker

/-- One broker answers for everything that is asked at an accepted address: the one that the URL of
the settings names. An account and an identity can be any text; what they make of the address is a
URL for the same broker or none at all. -/
theorem address_keeps_broker {s : Settings} {base : String} (h : s.baseUrl = .ok base) :
    ∃ broker,
      (∃ own, Url.parse base.toList = .ok own ∧ AnsweredBy broker own) ∧
      (∀ whole, Url.parse s.authnUrl.toList = .ok whole → AnsweredBy broker whole) ∧
      ∀ (place : Place) (account identity : String) (url : Url),
        Url.parse (place.address base account identity).toList = .ok url →
          AnsweredBy broker url := by
  obtain ⟨own, hown, hscheme⟩ := Settings.parse_of_baseUrl h
  have hremote : Url.isRemote own.scheme = true := by
    rw [hscheme]
    decide
  obtain ⟨_, broker, _, hreads⟩ := Url.reads_of_parse hown hremote
  have hbroker : own.authority = some broker := congrArg Url.authority hreads.assembled
  have hsame {url : Url} (hurl : url.scheme = own.scheme ∧ url.authority = own.authority) :
      AnsweredBy broker url :=
    ⟨hurl.1.trans hscheme, hurl.2.trans hbroker⟩
  refine ⟨broker, ⟨own, hown, hscheme, hbroker⟩, ?_, ?_⟩
  · intro whole hwhole
    obtain ⟨lead, slashes, trail, hlead, hslashes, htrail, hraw⟩ :=
      Settings.authnUrl_of_baseUrl h
    rw [hraw] at hwhole
    exact hsame (Url.authority_of_surrounded hown hremote hlead hslashes htrail hwhole)
  · intro place account identity url hurl
    obtain ⟨rest, haddress⟩ := place.exists_address base account identity
    rw [haddress] at hurl
    exact hsame (Url.authority_of_slash hown hremote hurl)

/-- Settings with an address that names a user and a port and has blanks around it. -/
def padded : Settings :=
  { Settings.default with authnUrl := " https:\\svc:pw@Broker.example:8443/authn-jwt/prod/ " }

theorem address_keeps_broker_padded :
    padded.baseUrl = .ok "https:\\svc:pw@Broker.example:8443/authn-jwt/prod" ∧
    ∃ broker,
      (∃ own, Url.parse "https:\\svc:pw@Broker.example:8443/authn-jwt/prod".toList = .ok own ∧
        AnsweredBy broker own) ∧
      (∀ whole, Url.parse padded.authnUrl.toList = .ok whole → AnsweredBy broker whole) ∧
      ∀ (place : Place) (account identity : String) (url : Url),
        Url.parse (place.address "https:\\svc:pw@Broker.example:8443/authn-jwt/prod" account
          identity).toList = .ok url → AnsweredBy broker url :=
  have h : padded.baseUrl = .ok "https:\\svc:pw@Broker.example:8443/authn-jwt/prod" := by
    decide +kernel
  ⟨h, address_keeps_broker h⟩

end Endpoint

end WorkloadIdentity
