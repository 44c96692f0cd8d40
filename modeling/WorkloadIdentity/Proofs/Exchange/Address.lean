import WorkloadIdentity.Proofs.Exchange.Place
import WorkloadIdentity.Proofs.Url.Extensible

/-!
What the addresses ask for. The address of the settings is extended by text, so the segments of a
place become the end of its path only where the text ends in a path. An address with a query, a
fragment or something at its end that is dropped from it alone is accepted all the same, and then
the requests go to another path.
-/

namespace WorkloadIdentity.Endpoint

variable {s : Settings} {base account identity : String} {own : Url}

/-! ### Identities of letters and digits -/

private theorem isWordChar_of_isAlphanum {c : Char} (h : c.isAlphanum = true) :
    Url.isWordChar c = true := by
  rw [Url.isWordChar, h, Bool.true_or]

/-- The form encoding leaves letters and digits as they are. -/
theorem encodedIdentity_of_alphanum (h : identity.toList.all Char.isAlphanum = true) :
    encodedIdentity identity = identity := by
  have hchar : ∀ c ∈ identity.toList, (String.utf8EncodeChar c).flatMap Url.formByte = [c] := by
    intro c hc
    have halphanum : c.isAlphanum = true := List.all_eq_true.mp h c hc
    have hascii := Url.toNat_lt_of_isWordChar (isWordChar_of_isAlphanum halphanum)
    exact Url.of_ascii (P := fun c => c.isAlphanum = true →
      (String.utf8EncodeChar c).flatMap Url.formByte = [c]) (by decide) hascii halphanum
  rw [encodedIdentity, Url.formEncode, Utf8.encode, List.flatMap_assoc, List.flatMap_congr hchar,
    List.flatMap_singleton', String.ofList_toList]

/-! ### The path that is asked for -/

/-- The segments of a place as they stand in a path. -/
def Place.path (account identity : String) (place : Place) : List (List Char) :=
  (place.segments account identity).map String.toList

theorem Place.path_ne_nil (place : Place) : place.path account identity ≠ [] := by
  rcases place with _ | (_ | _) | (_ | _)
  all_goals exact List.cons_ne_nil _ _

/-- The segments that are the same for all. -/
def fixedSegments : List String := ["inject_client_cert", "users", "authenticate"]

theorem Place.mem_segments {segment : String} (place : Place)
    (h : segment ∈ place.segments account identity) :
    segment = account ∨ segment = identity ∨ segment ∈ fixedSegments := by
  simp only [fixedSegments, List.mem_cons, List.not_mem_nil, or_false]
  rcases place with _ | (_ | _) | (_ | _)
  all_goals
    simp only [segments, List.mem_cons, List.not_mem_nil, or_false] at h
    tauto

theorem Place.isWordChar_of_mem_path (haccount : account.toList.all Char.isAlphanum = true)
    (hidentity : identity.toList.all Char.isAlphanum = true) (place : Place) :
    ∀ part ∈ place.path account identity, ∀ c ∈ part, Url.isWordChar c = true := by
  intro part hpart c hc
  obtain ⟨segment, hsegment, rfl⟩ := List.mem_map.mp hpart
  rcases place.mem_segments hsegment with rfl | rfl | hfixed
  · exact isWordChar_of_isAlphanum (List.all_eq_true.mp haccount c hc)
  · exact isWordChar_of_isAlphanum (List.all_eq_true.mp hidentity c hc)
  · have hall : ∀ segment ∈ fixedSegments, segment.toList.all Url.isWordChar = true := by decide
    exact List.all_eq_true.mp (hall segment hfixed) c hc

/-- The URL of a place is the one of the settings with the segments of the place put behind its
path, and with nothing of them in a query or a fragment, exactly if the address of the settings has
no query and no fragment, loses nothing at its end, and does not go on with an empty segment. -/
theorem address_extends_path_iff (h : s.baseUrl = .ok base) (hown : Url.parse base.toList = .ok own)
    (haccount : account.toList.all Char.isAlphanum = true)
    (hidentity : identity.toList.all Char.isAlphanum = true) (place : Place) :
    (∃ url, Url.parse (place.address base account identity).toList = .ok url ∧
        url.path = .segments (own.path.standing ++ place.path account identity) ∧
        url.query = none ∧ url.fragment = none) ↔
      Url.Extensible base.toList := by
  have hremote : Url.isRemote own.scheme = true := by
    obtain ⟨own', hown', hscheme⟩ := Settings.parse_of_baseUrl h
    rw [hown] at hown'
    obtain rfl := Except.ok.inj hown'
    rw [hscheme]
    decide
  obtain ⟨text, found, behind, hreads⟩ := Url.reads_of_parse hown hremote
  have hraw := Url.exists_inside_of_parse hown
  have hword := place.isWordChar_of_mem_path haccount hidentity
  have haddress : (place.address base account identity).toList =
      base.toList ++ Url.segmentText (place.path account identity) := by
    rw [place.toList_address, encodedIdentity_of_alphanum hidentity, Url.segmentText, Place.path,
      List.flatMap_map]
  rw [haddress]
  constructor
  · rintro ⟨url, hurl, hpath, hquery, hfragment⟩
    exact Url.extensible_of_path hreads hraw place.path_ne_nil hword hurl hpath hquery hfragment
  · intro hextensible
    exact Url.path_of_extensible hreads hraw place.path_ne_nil hword hextensible

/-- Settings for a broker at the given address. -/
def settingsAt (address : String) : Settings := { Settings.default with authnUrl := address }

/-- The URL of a service at a broker. -/
def serviceUrl : Url where
  scheme := "https".toList
  authority := some { username := [], secret := none, host := .name "broker".toList, port := none }
  path := .segments ["authn-jwt".toList, "svc".toList]
  query := none
  fragment := none

theorem address_extends_path_iff_service :
    (settingsAt "https://broker/authn-jwt/svc/").baseUrl = .ok "https://broker/authn-jwt/svc" ∧
    Url.parse "https://broker/authn-jwt/svc".toList = .ok serviceUrl ∧
    "myorg".toList.all Char.isAlphanum = true ∧ "".toList.all Char.isAlphanum = true ∧
    (∃ url, Url.parse ((Place.exchange false).address "https://broker/authn-jwt/svc" "myorg"
        "").toList = .ok url ∧
      url.path = .segments (serviceUrl.path.standing ++ (Place.exchange false).path "myorg" "") ∧
      url.query = none ∧ url.fragment = none) ∧
    Url.Extensible "https://broker/authn-jwt/svc".toList := by
  have h : (settingsAt "https://broker/authn-jwt/svc/").baseUrl =
      .ok "https://broker/authn-jwt/svc" := by decide +kernel
  have hown : Url.parse "https://broker/authn-jwt/svc".toList = .ok serviceUrl := by decide +kernel
  have haccount : "myorg".toList.all Char.isAlphanum = true := by decide
  have hidentity : "".toList.all Char.isAlphanum = true := by decide
  have hurl : Url.parse ((Place.exchange false).address "https://broker/authn-jwt/svc" "myorg"
      "").toList = .ok { serviceUrl with
        path := .segments (["authn-jwt", "svc", "myorg", "authenticate"].map String.toList) } := by
    decide +kernel
  have hpath := address_extends_path_iff h hown haccount hidentity (.exchange false)
  exact ⟨h, hown, haccount, hidentity, ⟨_, hurl, by decide +kernel, rfl, rfl⟩,
    hpath.mp ⟨_, hurl, by decide +kernel, rfl, rfl⟩⟩

/-- An address with a fragment is accepted, and every request for a token goes to the bare path of
the service: the account and the endpoint end up in the fragment, which is not sent. So is one with a
space in front of its last slash, and then there is no URL to send a request to. -/
theorem accepted_address_loses_segments :
    ((settingsAt "https://broker/authn-jwt/svc#prod").baseUrl =
        .ok "https://broker/authn-jwt/svc#prod" ∧
      Url.parse ((Place.exchange false).address "https://broker/authn-jwt/svc#prod" "myorg"
          "").toList =
        .ok { serviceUrl with fragment := some "prod/myorg/authenticate".toList } ∧
      ¬∃ own url, Url.parse "https://broker/authn-jwt/svc#prod".toList = .ok own ∧
        Url.parse ((Place.exchange false).address "https://broker/authn-jwt/svc#prod" "myorg"
          "").toList = .ok url ∧
        url.path = .segments (own.path.standing ++ (Place.exchange false).path "myorg" "") ∧
        url.query = none ∧ url.fragment = none) ∧
    (settingsAt "https://broker:8443 /").baseUrl = .ok "https://broker:8443 " ∧
      Url.parse ((Place.exchange false).address "https://broker:8443 " "myorg" "").toList =
        .error .invalidPort := by
  have hurl : Url.parse ((Place.exchange false).address "https://broker/authn-jwt/svc#prod" "myorg"
      "").toList = .ok { serviceUrl with fragment := some "prod/myorg/authenticate".toList } := by
    decide +kernel
  refine ⟨⟨by decide +kernel, hurl, ?_⟩, by decide +kernel, by decide +kernel⟩
  rintro ⟨own, url, -, hparse, -, -, hfragment⟩
  rw [hurl] at hparse
  obtain rfl := Except.ok.inj hparse
  cases hfragment

end WorkloadIdentity.Endpoint
