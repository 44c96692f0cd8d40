import WorkloadIdentity.Exchange.Token
import WorkloadIdentity.Proofs.Exchange.Trace
import WorkloadIdentity.Proofs.Url.Extensible
import WorkloadIdentity.Proofs.Url.Form
import WorkloadIdentity.World

/-!
Exchanging a token that someone else has issued. Whether the broker is asked at all is decided by
the token: without one that is more than blanks it is not, and with one it is asked once, if its
address fits into a request. The form that the token is sent in says the token and nothing else to
whoever reads it, whatever characters there are in it.

A request is what is handed to the client; that the client may follow a redirection is its own
affair.
-/

namespace WorkloadIdentity

/-- The address can be asked: it is the URL of a host, and one that fits into a request. -/
def Endpoint.Requestable (address : String) : Prop :=
  ∃ url, Url.parse address.toList = .ok url ∧ url.hasHost = true ∧
    Request.isSendable url.withoutUser = true

namespace Request

variable {address token : String} {pairs : List (String × String)}

/-- The request asks at an address with a form that is read as one pair, the token and its name. -/
structure Carries (request : Request) (address token : String) : Prop where
  method : request.method = .post
  url : ∃ url, Url.parse address.toList = .ok url ∧ request.url = url.withoutUser
  body : ∃ pairs, request.body = .form pairs ∧
    Url.readForm (Body.formText pairs).toList = [("jwt", token)]

theorem readForm_formText (pairs : List (String × String)) :
    Url.readForm (Body.formText pairs).toList = pairs := by
  rw [Body.formText, String.toList_ofList]
  exact Url.readForm_join pairs

theorem hasWebScheme_of_isSendable {url : Url} (h : isSendable url = true) :
    hasWebScheme url = true := by
  simp only [isSendable, Bool.and_eq_true] at h
  exact h.1.1

theorem build_of_requestable (h : Endpoint.Requestable address) (token : String) :
    ∃ request, build .post address [] [] (.form [("jwt", token)]) = .ok request ∧
      request.Carries address token := by
  obtain ⟨url, hparse, hhost, hsendable⟩ := h
  refine ⟨⟨.post, url.withoutUser, [], .form [("jwt", token)]⟩, ?_, rfl, ⟨url, hparse, rfl⟩,
    [("jwt", token)], rfl, readForm_formText _⟩
  simp [build, hparse, hhost, hsendable, hasWebScheme_of_isSendable hsendable]

theorem build_of_not_requestable (h : ¬Endpoint.Requestable address) (body : Body) :
    ∃ fault, build .post address [] [] body = .error (.notBuilt fault) := by
  unfold build
  split
  · exact ⟨_, rfl⟩
  · next url hparse =>
      cases hhost : url.hasHost with
      | false => exact ⟨_, rfl⟩
      | true =>
          have hsendable : isSendable url.withoutUser = false := by
            rw [← Bool.not_eq_true]
            intro hsendable
            exact h ⟨url, hparse, hhost, hsendable⟩
          cases hscheme : hasWebScheme url.withoutUser with
          | false => exact ⟨.badScheme (String.ofList url.withoutUser.href), by simp [hscheme]⟩
          | true =>
              exact ⟨.badUrl (String.ofList url.withoutUser.href), by simp [hscheme, hsendable]⟩

end Request

/-- Each segment of its path is shorter than a URL. -/
theorem Url.length_lt_href {url : Url} {parts : List (List Char)} {part : List Char}
    (hpath : url.path = .segments parts) (hpart : part ∈ parts) :
    part.length < url.href.length := by
  obtain ⟨before, behind, rfl⟩ := List.append_of_mem hpart
  simp only [href, hpath, Path.text, List.flatMap_append, List.flatMap_cons, List.length_append,
    List.length_cons]
  omega

/-- An address with a segment as long as a whole address may be is none that can be asked. -/
theorem Endpoint.not_requestable_of_mem {address : String} {url : Url} {parts : List (List Char)}
    {part : List Char} (hurl : Url.parse address.toList = .ok url)
    (hpath : url.path = .segments parts) (hpart : part ∈ parts)
    (hlong : Request.maxAddress ≤ part.length) : ¬Requestable address := by
  rintro ⟨sent, hsent, -, hsendable⟩
  obtain rfl : url = sent := Except.ok.inj (hurl.symm.trans hsent)
  have hlength : url.withoutUser.href.length ≤ Request.maxAddress := by
    simp only [Request.isSendable, Bool.and_eq_true, decide_eq_true_eq] at hsendable
    exact hsendable.1.2
  have hsegment : part.length < url.withoutUser.href.length := Url.length_lt_href hpath hpart
  omega

namespace Exchange

variable {σ : Type} {obtained : String → Prop} {refused : Failure → Prop} {connector : Connector}
  {address token : String}

/-- The requests among events, with the clients that send them. -/
def sent (events : List Event) : List (Client × Request) :=
  events.filterMap fun event =>
    match event.effect with
    | .send client request => some (client, request)
    | _ => none

/-- How an exchange goes that begins with a token, if there is one: the requests that follow, and
the end. -/
inductive ByToken (obtained : String → Prop) (refused : Failure → Prop) (client : Client)
    (address : String) : List (Client × Request) → Outcome Unit → Prop
  /-- With a token the address is asked once. -/
  | asked {token : String} {request : Request} {outcome : Outcome Unit} :
      obtained token → Endpoint.Requestable address → request.Carries address token →
      ByToken obtained refused client address [(client, request)] outcome
  /-- Without one it is not asked. -/
  | notAsked {failure : Failure} : (∀ token, ¬obtained token) → refused failure →
      ByToken obtained refused client address [] (.failed failure)
  /-- It cannot be asked. -/
  | unaskable {token : String} {fault : RequestFault} :
      obtained token → ¬Endpoint.Requestable address →
      ByToken obtained refused client address [] (.failed (.transport (.notBuilt fault)))

theorem ByToken.eq_nil {client : Client} {requests : List (Client × Request)}
    {outcome : Outcome Unit} (h : ByToken obtained refused client address requests outcome)
    (haddress : ¬Endpoint.Requestable address) : requests = [] := by
  cases h with
  | asked _ hrequestable _ => exact absurd hrequestable haddress
  | notAsked _ _ => rfl
  | unaskable _ _ => rfl

theorem ofToken_byToken {events : List Event} {outcome : Outcome Unit} (hobtained : obtained token)
    (h : (ofToken connector address token).Yields events outcome) :
    ByToken obtained refused connector.client address (sent events) outcome := by
  have hends := obtain_yields_iff.mp h
  by_cases haddress : Endpoint.Requestable address
  · obtain ⟨request, hbuilt, hcarries⟩ := Request.build_of_requestable haddress token
    have hasked : ByToken obtained refused connector.client address
        [(connector.client, request)] outcome :=
      .asked hobtained haddress hcarries
    rw [hbuilt] at hends
    cases hends with
    | notBuilt hfault => cases hfault
    | refused hsame _ =>
        cases hsame
        exact hasked
    | handedOver hsame _ =>
        cases hsame
        exact hasked
  · obtain ⟨fault, hfault⟩ :=
      Request.build_of_not_requestable haddress (.form [("jwt", token)])
    rw [hfault] at hends
    cases hends with
    | notBuilt hsame =>
        cases hsame
        exact .unaskable hobtained haddress
    | refused hbuilt _ => cases hbuilt
    | handedOver hbuilt _ => cases hbuilt

/-- What is read decides, and decides alone. -/
theorem ofExcept_byToken (handle : σ → (effect : Effect) → effect.Answer × σ) (s : σ)
    {result : Except Failure String} (hok : ∀ token, result = .ok token ↔ obtained token)
    (herror : ∀ failure, result = .error failure → refused failure) :
    let exchange := ofExcept result >>= ofToken connector address
    ByToken obtained refused connector.client address (sent (Program.trace handle exchange s))
      (Program.run handle exchange s).1 := by
  cases result with
  | ok token =>
      exact ofToken_byToken ((hok token).mp rfl)
        (Program.yields_trace handle (ofToken connector address token) s)
  | error failure =>
      refine .notAsked ?_ (herror failure rfl)
      intro token hobtained
      cases (hok token).mpr hobtained

end Exchange

/-! ### Where the token is from -/

theorem Exchange.nonempty_eq_ok_iff {text found : String} {failure : Failure} :
    (if text = "" then .error failure else .ok text : Except Failure String) = .ok found ↔
      found ≠ "" ∧ found = text := by
  split
  · next hempty =>
      subst hempty
      simp
  · next htext =>
      constructor
      · rintro ⟨⟩
        exact ⟨htext, rfl⟩
      · rintro ⟨-, rfl⟩
        rfl

namespace BearerAuthenticator

variable {path : Path} {content : Except IoFault Bytes} {failure : Failure}

/-- A file holds a token: it is a text, and this is left of it without the blanks around it. -/
def Holds (content : Except IoFault Bytes) (token : String) : Prop :=
  token ≠ "" ∧ ∃ text, content = .ok (Utf8.ofString text) ∧ token = Text.trimmed text

theorem token_eq_ok_iff_holds {found : String} :
    token path content = .ok found ↔ Holds content found := by
  cases content with
  | error fault => simp [token, Holds]
  | ok bytes =>
      cases htext : Utf8.toString? bytes with
      | none =>
          have hbytes (text : String) : bytes ≠ Utf8.ofString text := by
            intro h
            rw [Utf8.toString?_eq_some_iff.mpr h] at htext
            cases htext
          simp [token, Holds, htext, hbytes]
      | some text =>
          have hread (other : String) : bytes = Utf8.ofString other ↔ other = text := by
            rw [← Utf8.toString?_eq_some_iff, htext, Option.some.injEq, eq_comm]
          simp only [token, Holds, htext, Exchange.nonempty_eq_ok_iff, Except.ok.injEq, hread,
            exists_eq_left]

theorem exists_of_token_eq_error (h : token path content = .error failure) :
    ∃ fault, failure = .tokenUnreadable path fault := by
  unfold token at h
  dsimp only at h
  split at h
  · exact ⟨_, (Except.error.inj h).symm⟩
  · split at h
    · exact ⟨_, (Except.error.inj h).symm⟩
    · split at h
      · exact ⟨_, (Except.error.inj h).symm⟩
      · cases h

/-- A token in a file is exchanged with the only request that is made. -/
theorem authenticate_byToken {σ : Type} (a : BearerAuthenticator)
    (handle : σ → (effect : Effect) → effect.Answer × σ) (s : σ) :
    Exchange.ByToken (Holds (handle s (.file (.read a.settings.tokenPath))).1)
      (fun failure => ∃ fault, failure = .tokenUnreadable a.settings.tokenPath fault)
      a.connector.client
      (Endpoint.exchange a.settings.baseUrl a.settings.account a.settings.identity)
      (Exchange.sent (Program.trace handle a.authenticate s))
      (Program.run handle a.authenticate s).1 :=
  Exchange.ofExcept_byToken handle (handle s (.file (.read a.settings.tokenPath))).2
    (fun _ => token_eq_ok_iff_holds) (fun _ => exists_of_token_eq_error)

end BearerAuthenticator

namespace MetadataAuthenticator

variable {answer : Except TransportFault Response} {failure : Failure}

/-- The metadata server gives a token: its answer is a success, and this is left of what came with
it without the blanks around it. -/
def Gives (answer : Except TransportFault Response) (token : String) : Prop :=
  token ≠ "" ∧ ∃ status content, answer = .ok ⟨status, some content⟩ ∧ 200 ≤ status ∧
    status < 300 ∧ token = Text.trimmed (Utf8.toStringLossy content)

theorem token_eq_ok_iff_gives {found : String} :
    token answer = .ok found ↔ Gives answer found := by
  rcases answer with fault | ⟨status, _ | content⟩
  · simp [token, Gives]
  · simp [token, Gives, Response.content]
  · have hsuccess : (Response.mk status (some content)).isSuccess = true ↔
        200 ≤ status ∧ status < 300 := by
      simp [Response.isSuccess]
    have hgives : Gives (.ok ⟨status, some content⟩) found ↔ found ≠ "" ∧
        (Response.mk status (some content)).isSuccess = true ∧
          found = Text.trimmed (Utf8.toStringLossy content) := by
      simp [Gives, hsuccess, and_assoc]
    rw [hgives]
    cases hstatus : (Response.mk status (some content)).isSuccess with
    | false => simp [token, Response.content, hstatus]
    | true => simp [token, Response.content, hstatus, Exchange.nonempty_eq_ok_iff]

theorem exists_of_token_eq_error (h : token answer = .error failure) :
    ∃ words, failure = .metadataUnavailable words := by
  unfold token at h
  dsimp only at h
  split at h
  · exact ⟨_, (Except.error.inj h).symm⟩
  · split at h
    · exact ⟨_, (Except.error.inj h).symm⟩
    · split at h
      · exact ⟨_, (Except.error.inj h).symm⟩
      · split at h
        · exact ⟨_, (Except.error.inj h).symm⟩
        · cases h

variable {σ : Type} (a : MetadataAuthenticator)
  (handle : σ → (effect : Effect) → effect.Answer × σ) (s : σ)

/-- The requests that the metadata server is asked with: one, if there is such a request. -/
def asked : List (Client × Request) :=
  match a.tokenRequest with
  | .ok request => [(a.connector.client, request)]
  | .error _ => []

/-- What has come of asking the metadata server. -/
def reply : Except TransportFault Response :=
  match a.tokenRequest with
  | .ok request => (handle s (.send a.connector.client request)).1
  | .error fault => .error fault

/-- Whoever asks the metadata server goes on with its reply. -/
theorem trace_response (f : Except TransportFault Response → Exchange Unit) :
    let exchange : Exchange Unit := Exchange.response a.connector.client a.tokenRequest >>= f
    ∃ later, Exchange.sent (Program.trace handle exchange s) =
        a.asked ++ Exchange.sent (Program.trace handle (f (a.reply handle s)) later) ∧
      (Program.run handle exchange s).1 = (Program.run handle (f (a.reply handle s)) later).1 := by
  unfold asked reply
  cases a.tokenRequest with
  | ok request => exact ⟨(handle s (.send a.connector.client request)).2, rfl, rfl⟩
  | error fault => exact ⟨s, rfl, rfl⟩

end MetadataAuthenticator

namespace Exchange

/-- Whatever the surroundings answer, a broker at an address that can be asked is asked if and only
if there is a token that is more than blanks: once, with this token in a form. With a token in a
file this is the only request; with one from the metadata server it follows the request for the
token. Without a token the authentication fails and says which file cannot be read, or that the
metadata server is not available. -/
theorem broker_is_asked_with_token {σ : Type} (a : BearerAuthenticator) (b : MetadataAuthenticator)
    (handle : σ → (effect : Effect) → effect.Answer × σ) (s : σ) :
    ByToken (BearerAuthenticator.Holds (handle s (.file (.read a.settings.tokenPath))).1)
        (fun failure => ∃ fault, failure = .tokenUnreadable a.settings.tokenPath fault)
        a.connector.client
        (Endpoint.exchange a.settings.baseUrl a.settings.account a.settings.identity)
        (sent (Program.trace handle a.authenticate s)) (Program.run handle a.authenticate s).1 ∧
      ∃ rest, sent (Program.trace handle b.authenticate s) = b.asked ++ rest ∧
        ByToken (MetadataAuthenticator.Gives (b.reply handle s))
          (fun failure => ∃ words, failure = .metadataUnavailable words) b.connector.client
          (Endpoint.exchange b.settings.baseUrl b.settings.account none) rest
          (Program.run handle b.authenticate s).1 := by
  constructor
  · exact a.authenticate_byToken handle s
  · obtain ⟨later, hsent, houtcome⟩ := b.trace_response handle s fun answer =>
      ofExcept (MetadataAuthenticator.token answer) >>=
        ofToken b.connector (Endpoint.exchange b.settings.baseUrl b.settings.account none)
    have hend : (Program.run handle b.authenticate s).1 = _ := houtcome
    refine ⟨_, hsent, ?_⟩
    rw [hend]
    exact ofExcept_byToken handle later (fun _ => MetadataAuthenticator.token_eq_ok_iff_gives)
      (fun _ => MetadataAuthenticator.exists_of_token_eq_error)

/-- A token in a file for an account that fills a whole address. -/
def longAccount : BearerAuthenticator where
  settings := {
    baseUrl := "https://broker/authn-jwt/svc"
    account := String.ofList (List.replicate Request.maxAddress 'a')
    identity := none
    tokenPath := "jwt"
    authority := []
    requestTimeout := Connector.defaultTimeout }
  connector := { pool := ⟨[]⟩, timeout := Connector.defaultTimeout }

/-- A world with such a file. -/
def tokenWorld : World :=
  World.quiet 0 ⟨[(⟨false, ["jwt"]⟩, .file 0)], [⟨Utf8.ofString "j", 0o600⟩]⟩ (.forPath none)

/-- The URL of a service, with more segments behind its path. -/
def serviceUrl (more : List (List Char)) : Url where
  scheme := "https".toList
  authority := some { username := [], secret := none, host := .name "broker".toList, port := none }
  path := .segments ("authn-jwt".toList :: "svc".toList :: more)
  query := none
  fragment := none

/-- The address for this account is a URL, with the account as a segment. -/
theorem longAccount_parse :
    ∃ url parts, Url.parse (Endpoint.exchange longAccount.settings.baseUrl
        longAccount.settings.account longAccount.settings.identity).toList = .ok url ∧
      url.path = .segments parts ∧ List.replicate Request.maxAddress 'a' ∈ parts := by
  have hown : Url.parse "https://broker/authn-jwt/svc".toList = .ok (serviceUrl []) := by
    decide +kernel
  have hslash : Url.parse ("https://broker/authn-jwt/svc".toList ++ ['/']) =
      .ok (serviceUrl [[]]) := by decide +kernel
  have hextensible : Url.Extensible "https://broker/authn-jwt/svc".toList := by
    refine ⟨by decide, by decide, by decide, ?_⟩
    intro url front hurl hpath
    rw [hslash] at hurl
    obtain rfl := Except.ok.inj hurl
    have hreverse := congrArg List.reverse (Url.Path.segments.inj hpath)
    simp at hreverse
  have hword : ∀ part ∈ [List.replicate Request.maxAddress 'a', "authenticate".toList],
      ∀ c ∈ part, Url.isWordChar c = true := by
    intro part hpart c hc
    rcases List.mem_pair.mp hpart with rfl | rfl
    · rw [List.eq_of_mem_replicate hc]
      decide
    · exact List.all_eq_true.mp (by decide) c hc
  obtain ⟨_, _, _, hreads⟩ := Url.reads_of_parse hown (by decide)
  obtain ⟨url, hurl, hpath, -, -⟩ := Url.path_of_extensible hreads
    (Url.exists_inside_of_parse hown) (List.cons_ne_nil _ _) hword hextensible
  refine ⟨url, _, ?_, hpath, List.mem_append_right _ List.mem_cons_self⟩
  rw [← hurl]
  simp [longAccount, Endpoint.exchange, Url.segmentText]

/-- With this account nothing is sent, although the token can be read and the address is a URL. -/
theorem long_account_is_not_sent :
    BearerAuthenticator.Holds (World.answer tokenWorld (.file (.read "jwt"))).1 "j" ∧
    sent (Program.trace World.answer longAccount.authenticate tokenWorld) = [] ∧
    ¬∀ (a : BearerAuthenticator) (w : World),
      (∃ url, Url.parse (Endpoint.exchange a.settings.baseUrl a.settings.account
        a.settings.identity).toList = .ok url) →
      ((∃ token, BearerAuthenticator.Holds
          (World.answer w (.file (.read a.settings.tokenPath))).1 token) ↔
        sent (Program.trace World.answer a.authenticate w) ≠ []) := by
  obtain ⟨url, parts, hurl, hpath, haccount⟩ := longAccount_parse
  have hholds : BearerAuthenticator.Holds
      (World.answer tokenWorld (.file (.read "jwt"))).1 "j" :=
    ⟨by decide, "j", by rfl, by decide⟩
  have hlong : Request.maxAddress ≤ (List.replicate Request.maxAddress 'a').length :=
    (List.length_replicate).ge
  have hnothing := (longAccount.authenticate_byToken World.answer tokenWorld).eq_nil
    (Endpoint.not_requestable_of_mem hurl hpath haccount hlong)
  refine ⟨hholds, hnothing, ?_⟩
  intro hasked
  exact (hasked longAccount tokenWorld ⟨url, hurl⟩).mp ⟨"j", hholds⟩ hnothing

end Exchange

end WorkloadIdentity
