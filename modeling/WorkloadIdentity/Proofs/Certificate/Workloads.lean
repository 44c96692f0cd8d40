import WorkloadIdentity.Proofs.Certificate.Login
import WorkloadIdentity.Proofs.FileSystem.Walk
import WorkloadIdentity.Proofs.HostIdentity
import WorkloadIdentity.Proofs.Text.Parts

/-!
Telling workloads apart by their logins. A login names its workload in three places: the policy of
the identity in a header, the leaf as the common name, and the pod in an address. The halves of the
identity are written with points for slashes, and the names of the pod are put into the address as
they are. So two workloads look the same if their identities differ in nothing but points and
slashes, and their pods in nothing but the place where the namespace ends.
-/

namespace WorkloadIdentity

/-! ### Identities with points -/

namespace HostIdentity

variable {raw : String}

/-- Two identities have the same halves if they are the same but for points and slashes, and are cut
at the same place. -/
theorem same_halves_iff {other : String} {i j : HostIdentity} (hi : parse raw = .ok i)
    (hj : parse other = .ok j) : i.policy = j.policy ∧ i.leaf = j.leaf ↔
      Text.remark '/' '.' i.full.toList = Text.remark '/' '.' j.full.toList ∧
        i.policy.length = j.policy.length := by
  rw [full_of_parse hi, full_of_parse hj, ← halves_of_parse hi, ← halves_of_parse hj]
  constructor
  · rintro ⟨hpolicy, hleaf⟩
    rw [hpolicy, hleaf]
    exact ⟨rfl, rfl⟩
  · rintro ⟨hwhole, hlength⟩
    rw [← String.length_toList, ← String.length_toList] at hlength
    obtain ⟨hpolicy, hleaf⟩ := List.append_inj hwhole hlength
    exact ⟨String.toList_inj.mp hpolicy, String.toList_inj.mp (List.cons.inj hleaf).2⟩

end HostIdentity

/-! ### Addresses of pods -/

private theorem append_front (a b c d : String) : a ++ b ++ c ++ d = a ++ (b ++ c ++ d) := by
  rw [String.append_assoc, String.append_assoc, String.append_assoc]

theorem podUri_inj {podNamespace podName otherNamespace otherName : String} :
    podUri podNamespace podName = podUri otherNamespace otherName ↔
      podNamespace ++ "/podname/" ++ podName = otherNamespace ++ "/podname/" ++ otherName := by
  have hfront (podNamespace podName : String) : podUri podNamespace podName =
      "spiffe://cluster.local/namespace/" ++ (podNamespace ++ "/podname/" ++ podName) :=
    append_front _ podNamespace _ podName
  constructor
  · intro h
    exact (String.append_right_inj _).mp ((hfront _ _).symm.trans (h.trans (hfront _ _)))
  · intro h
    exact (hfront _ _).trans ((congrArg _ h).trans (hfront _ _).symm)

/-- A namespace without a slash ends where the first one stands. -/
theorem pod_inj {podNamespace podName otherNamespace otherName : String}
    (h : '/' ∉ podNamespace.toList) (hother : '/' ∉ otherNamespace.toList) :
    podNamespace ++ "/podname/" ++ podName = otherNamespace ++ "/podname/" ++ otherName ↔
      podNamespace = otherNamespace ∧ podName = otherName := by
  constructor
  · intro hsame
    have hlist := congrArg String.toList hsame
    simp only [String.toList_append, List.append_assoc] at hlist
    have hsplit := congrArg (Text.splitOn '/') hlist
    have hmark : "/podname/".toList = '/' :: "podname/".toList := rfl
    rw [hmark, List.cons_append, Text.splitOn_append h, List.cons_append,
      Text.splitOn_append hother] at hsplit
    obtain rfl := String.toList_inj.mp (List.cons.inj hsplit).1
    exact ⟨rfl, String.append_right_inj _ |>.mp hsame⟩
  · rintro ⟨rfl, rfl⟩
    rfl

/-! ### What a login sends -/

theorem Request.headers_of_build {method : Method} {address : String}
    {query headers : List (String × String)} {body : Body} {request : Request}
    (h : Request.build method address query headers body = .ok request) :
    request.headers = headers := by
  grind [Request.build]

theorem SigningRequest.eq_of_create {identity : HostIdentity} {podNamespace podName : String}
    {csr : SigningRequest} (h : create identity podNamespace podName = .ok csr) :
    csr = ⟨[(Certificate.commonNameOid, identity.leaf)], [podUri podNamespace podName]⟩ := by
  unfold create at h
  dsimp only at h
  split at h
  · cases h
    rfl
  · cases h

namespace CertificateAuthenticator

open Exchange (Event)

variable {a b : CertificateAuthenticator} {request other : Request}

/-- The request asks for a certificate for the workload. -/
def Asks (a : CertificateAuthenticator) (request : Request) : Prop :=
  ∃ csr, SigningRequest.create a.settings.identity a.settings.podNamespace a.settings.podName =
    .ok csr ∧ a.loginRequest csr = .ok request

/-- A login that has begun has sent the request. -/
def Sends (a : CertificateAuthenticator) (request : Request) : Prop :=
  ∃ events client, a.login.Begins events ∧ ∃ event ∈ events, event.effect = .send client request

/-- What the effect sends, if anything, asks for the workload's certificate. -/
def SendsAsked (a : CertificateAuthenticator) (effect : Effect) : Prop :=
  ∀ client request, effect = .send client request → a.Asks request

theorem sendsAsked_file (a : CertificateAuthenticator) (call : FileCall) :
    a.SendsAsked (.file call) := by
  rintro _ _ ⟨⟩

theorem sendsAsked_keep (a : CertificateAuthenticator) (session : Option Session) :
    a.SendsAsked (.keep session) := by
  rintro _ _ ⟨⟩

theorem login_only_asks (a : CertificateAuthenticator) : a.login.Only a.SendsAsked := by
  have hdiscard : (Exchange.discardFile a.settings.certificatePath).Only a.SendsAsked :=
    .bind (.call (a.sendsAsked_file _)) fun _ => .ofOutcome _
  have hawait : (Delivery.await a.settings.certificatePath a.settings.retryLimit
      a.settings.pollInterval).Only a.SendsAsked := by
    apply (Delivery.awaitFrom_only _ _ _ _).mono
    rintro effect (rfl | rfl) _ _ ⟨⟩
  unfold login newSession
  refine .bind (.call (a.sendsAsked_keep _)) fun _ => ?_
  refine .bind (.bind hdiscard fun _ => ?_) fun _ =>
    .bind (.call (a.sendsAsked_keep _)) fun _ => .ofOutcome _
  cases hcreate : SigningRequest.create a.settings.identity a.settings.podNamespace
      a.settings.podName with
  | error _ => exact .ofOutcome _
  | ok csr =>
      have hresponse : (Exchange.response a.connector.client (a.loginRequest csr)).Only
          a.SendsAsked := by
        cases hrequest : a.loginRequest csr with
        | error _ => exact .ofOutcome _
        | ok built =>
            apply Exchange.Only.call
            rintro _ _ ⟨⟩
            exact ⟨csr, hcreate, hrequest⟩
      rw [Except.mapError, Exchange.ofExcept_bind]
      exact .bind hresponse fun _ => .bind (.ofOutcome _) fun _ => .bind hawait fun _ =>
        .bind hdiscard fun _ => .ofOutcome _

theorem asks_of_sends (h : a.Sends request) : a.Asks request := by
  obtain ⟨events, client, hbegins, event, hmem, hsend⟩ := h
  exact (login_only_asks a).of_begins hbegins event hmem client request hsend

/-- A login can come to send it. -/
theorem sends_of_asks (h : a.Asks request) : a.Sends request := by
  obtain ⟨csr, hcreate, hrequest⟩ := h
  let removed : Event := ⟨.file (.remove a.settings.certificatePath), .ok ()⟩
  let sent : Event := ⟨.send a.connector.client request, .error .badBody⟩
  refine ⟨[⟨.keep none, ()⟩, removed, sent], a.connector.client, ?_, sent, by simp, rfl⟩
  apply Exchange.begins_call_bind_iff.mpr
  refine Or.inr ⟨(), _, rfl, Exchange.begins_bind_iff.mpr (Or.inl ?_)⟩
  unfold newSession
  refine Exchange.begins_bind_iff.mpr (Or.inr ⟨[removed], (), [sent], rfl, ?_, ?_⟩)
  · exact Exchange.yields_call_bind_iff.mpr ⟨.ok (), [], rfl, .done _⟩
  · rw [hcreate, Except.mapError, Exchange.ofExcept_bind]
    refine Exchange.begins_bind_iff.mpr (Or.inl ?_)
    rw [hrequest]
    exact Exchange.begins_call_iff.mpr (Or.inr ⟨_, rfl⟩)

end CertificateAuthenticator

/-! ### What can be seen of a workload -/

namespace CertificateSettings

variable {s : Settings} {fs : FileSystem} {c d : CertificateSettings}

/-- Accepted settings name a workload, and say where. -/
theorem of_ofSettings (h : ofSettings s fs = .ok c) : ∃ raw, s.identity? = some raw ∧
    HostIdentity.parse raw = .ok c.identity ∧
      Text.nonBlank? s.podNamespace = some c.podNamespace ∧
        Text.nonBlank? s.podName = some c.podName := by
  have hfield {value : Option String} {name text : String}
      (hrequired : requiredPodField value name = .ok text) : Text.nonBlank? value = some text := by
    unfold requiredPodField at hrequired
    split at hrequired
    · next hvalue =>
        cases hrequired
        exact hvalue
    · cases hrequired
  unfold ofSettings at h
  cases hraw : s.identity? with
  | none =>
      rw [hraw] at h
      cases h
  | some raw =>
      rw [hraw] at h
      obtain ⟨_, ⟨⟩, h⟩ := exists_of_bind_ok h
      obtain ⟨identity, hidentity, h⟩ := exists_of_bind_ok h
      obtain ⟨_, _, h⟩ := exists_of_bind_ok h
      obtain ⟨_, _, h⟩ := exists_of_bind_ok h
      obtain ⟨_, _, h⟩ := exists_of_bind_ok h
      obtain ⟨podName, hpodName, h⟩ := exists_of_bind_ok h
      obtain ⟨podNamespace, hpodNamespace, h⟩ := exists_of_bind_ok h
      cases h
      refine ⟨raw, rfl, ?_, hfield hpodNamespace, hfield hpodName⟩
      cases hparse : HostIdentity.parse raw with
      | error _ =>
          rw [hparse] at hidentity
          cases hidentity
      | ok _ =>
          rw [hparse] at hidentity
          cases hidentity
          rfl

/-- The same but for points and slashes in the identity, and for where the namespace ends. -/
structure LooksLike (c d : CertificateSettings) : Prop where
  identity : Text.remark '/' '.' c.identity.full.toList = Text.remark '/' '.' d.identity.full.toList
  cut : c.identity.policy.length = d.identity.policy.length
  pod : c.podNamespace ++ "/podname/" ++ c.podName = d.podNamespace ++ "/podname/" ++ d.podName

/-- An identity without points, in a namespace without slashes. -/
structure IsPlain (c : CertificateSettings) : Prop where
  identity : '.' ∉ c.identity.full.toList
  podNamespace : '/' ∉ c.podNamespace.toList

end CertificateSettings

namespace CertificateAuthenticator

variable {a b : CertificateAuthenticator} {request other : Request}

theorem Asks.headers (h : a.Asks request) :
    request.headers = [(policyHeader, a.settings.identity.policy)] := by
  obtain ⟨_, _, hrequest⟩ := h
  exact Request.headers_of_build hrequest

theorem Asks.body (h : a.Asks request) : request.body = .signingRequest
    ⟨[(Certificate.commonNameOid, a.settings.identity.leaf)],
      [podUri a.settings.podNamespace a.settings.podName]⟩ := by
  obtain ⟨csr, hcreate, hrequest⟩ := h
  rw [(Request.build_eq hrequest).2, SigningRequest.eq_of_create hcreate]

theorem Asks.same_iff (ha : a.Asks request) (hb : b.Asks other) :
    request.headers = other.headers ∧ request.body = other.body ↔
      (a.settings.identity.policy = b.settings.identity.policy ∧
        a.settings.identity.leaf = b.settings.identity.leaf) ∧
      a.settings.podNamespace ++ "/podname/" ++ a.settings.podName =
        b.settings.podNamespace ++ "/podname/" ++ b.settings.podName := by
  rw [ha.headers, hb.headers, ha.body, hb.body, ← podUri_inj, and_assoc]
  simp

/-- Two workloads with accepted settings send the same at their logins, in the header, in the name
and in the address, exactly if they look the same. If their identities have no points and their
namespaces no slashes, they are then one workload. -/
theorem login_requests_same_iff {s t : Settings} {fs gs : FileSystem}
    (hs : CertificateSettings.ofSettings s fs = .ok a.settings)
    (ht : CertificateSettings.ofSettings t gs = .ok b.settings)
    (ha : a.Sends request) (hb : b.Sends other) :
    (request.headers = other.headers ∧ request.body = other.body ↔
      a.settings.LooksLike b.settings) ∧
    (a.settings.IsPlain → b.settings.IsPlain →
      (request.headers = other.headers ∧ request.body = other.body ↔
        s.identity? = t.identity? ∧
        Text.nonBlank? s.podNamespace = Text.nonBlank? t.podNamespace ∧
        Text.nonBlank? s.podName = Text.nonBlank? t.podName)) := by
  obtain ⟨raw, hraw, hparse, hnamespace, hname⟩ := CertificateSettings.of_ofSettings hs
  obtain ⟨raw', hraw', hparse', hnamespace', hname'⟩ := CertificateSettings.of_ofSettings ht
  have hsame := (asks_of_sends ha).same_iff (asks_of_sends hb)
  rw [HostIdentity.same_halves_iff hparse hparse'] at hsame
  have hlooks : request.headers = other.headers ∧ request.body = other.body ↔
      a.settings.LooksLike b.settings := by
    rw [hsame]
    constructor
    · rintro ⟨⟨hidentity, hcut⟩, hpod⟩
      exact ⟨hidentity, hcut, hpod⟩
    · rintro ⟨hidentity, hcut, hpod⟩
      exact ⟨⟨hidentity, hcut⟩, hpod⟩
  refine ⟨hlooks, fun hplain hplain' => hlooks.trans ?_⟩
  rw [hraw, hraw', hnamespace, hnamespace', hname, hname', Option.some.injEq, Option.some.injEq,
    Option.some.injEq]
  constructor
  · rintro ⟨hidentity, _, hpod⟩
    have hfull := (Text.remark_inj hplain.identity hplain'.identity).mp hidentity
    rw [HostIdentity.full_of_parse hparse, HostIdentity.full_of_parse hparse'] at hfull
    exact ⟨String.toList_inj.mp hfull, (pod_inj hplain.podNamespace hplain'.podNamespace).mp hpod⟩
  · rintro ⟨rfl, hsameNamespace, hsameName⟩
    have hidentity := Except.ok.inj (hparse.symm.trans hparse')
    exact ⟨by rw [hidentity], by rw [hidentity], by rw [hsameNamespace, hsameName]⟩

namespace Sample

/-- Settings of a workload at a broker. -/
def configured (login podNamespace podName : String) : Settings := { Settings.default with
  authnUrl := "https://broker"
  account := "myorg"
  login := some login
  podNamespace := some podNamespace
  podName := some podName
  authorityText := some "authority" }

def workload (identity : HostIdentity) (podNamespace podName : String) :
    CertificateAuthenticator where
  settings := {
    baseUrl := "https://broker"
    account := "myorg"
    identity, podName, podNamespace
    authority := Utf8.ofString "authority"
    certificatePath := Settings.default.certificatePath
    retryLimit := Settings.default.certificateRetryLimit
    pollInterval := Settings.default.certificatePollInterval
    expiryBuffer := Settings.default.expiryBuffer
    version := Settings.default.version
    requestTimeout := Settings.default.requestTimeout }
  connector := { pool := ⟨[]⟩, timeout := Connector.defaultTimeout }
  key := ⟨1⟩

deriving instance DecidableEq for CertificateSettings

def signing (a : CertificateAuthenticator) : SigningRequest :=
  ⟨[(Certificate.commonNameOid, a.settings.identity.leaf)],
    [podUri a.settings.podNamespace a.settings.podName]⟩

/-- What asks for the certificate of a workload. -/
def asking (a : CertificateAuthenticator) : Request where
  method := .post
  url := {
    scheme := "https".toList
    authority := some
      { username := [], secret := none, host := .name "broker".toList, port := none }
    path := .segments ["inject_client_cert".toList]
    query := none
    fragment := none }
  headers := [(policyHeader, a.settings.identity.policy)]
  body := .signingRequest (signing a)

def team : HostIdentity := ⟨["apps", "sa", "pod"].map String.toList, by decide, by decide⟩

def firstPod : CertificateAuthenticator := workload team "ns" "pod-0"

def secondPod : CertificateAuthenticator := workload team "ns" "pod-1"

/-- A workload with a point in its identity and a slash in its namespace, -/
def pointed : CertificateAuthenticator :=
  workload ⟨["apps", "prod.web", "sa", "pod"].map String.toList, by decide, by decide⟩
    "a/podname/b" "c"

/-- and one with the point and the slash elsewhere. -/
def shifted : CertificateAuthenticator :=
  workload ⟨["apps", "prod", "web.sa", "pod"].map String.toList, by decide, by decide⟩
    "a" "b/podname/c"

end Sample

open Sample in
theorem login_requests_same_iff_pods :
    CertificateSettings.ofSettings (configured "host/apps/sa/pod" "ns" "pod-0") .empty =
      .ok firstPod.settings ∧
    CertificateSettings.ofSettings (configured "host/apps/sa/pod" "ns" "pod-1") .empty =
      .ok secondPod.settings ∧
    firstPod.Sends (asking firstPod) ∧ secondPod.Sends (asking secondPod) ∧
    firstPod.settings.IsPlain ∧ secondPod.settings.IsPlain ∧
    ¬((asking firstPod).headers = (asking secondPod).headers ∧
      (asking firstPod).body = (asking secondPod).body) := by
  have hs : CertificateSettings.ofSettings (configured "host/apps/sa/pod" "ns" "pod-0") .empty =
      .ok firstPod.settings := by decide +kernel
  have ht : CertificateSettings.ofSettings (configured "host/apps/sa/pod" "ns" "pod-1") .empty =
      .ok secondPod.settings := by decide +kernel
  have ha : firstPod.Sends (asking firstPod) :=
    sends_of_asks ⟨signing firstPod, by decide +kernel, by decide +kernel⟩
  have hb : secondPod.Sends (asking secondPod) :=
    sends_of_asks ⟨signing secondPod, by decide +kernel, by decide +kernel⟩
  have hplain : firstPod.settings.IsPlain := ⟨by decide +kernel, by decide +kernel⟩
  have hplain' : secondPod.settings.IsPlain := ⟨by decide +kernel, by decide +kernel⟩
  refine ⟨hs, ht, ha, hb, hplain, hplain', ?_⟩
  rw [(login_requests_same_iff hs ht ha hb).2 hplain hplain']
  decide +kernel

open Sample in
/-- Two accepted workloads that differ in their identities, their namespaces and their names send
one and the same request. -/
theorem different_workloads_send_same :
    CertificateSettings.ofSettings
        (configured "host/apps/prod.web/sa/pod" "a/podname/b" "c") .empty = .ok pointed.settings ∧
    CertificateSettings.ofSettings
        (configured "host/apps/prod/web.sa/pod" "a" "b/podname/c") .empty = .ok shifted.settings ∧
    pointed.settings.identity ≠ shifted.settings.identity ∧
    pointed.Sends (asking pointed) ∧ shifted.Sends (asking pointed) := by
  refine ⟨by decide +kernel, by decide +kernel, by decide +kernel, ?_, ?_⟩
  · exact sends_of_asks ⟨signing pointed, by decide +kernel, by decide +kernel⟩
  · exact sends_of_asks ⟨signing pointed, by decide +kernel, by decide +kernel⟩

end CertificateAuthenticator

end WorkloadIdentity
