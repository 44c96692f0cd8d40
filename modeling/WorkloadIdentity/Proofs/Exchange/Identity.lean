import WorkloadIdentity.Proofs.Exchange.Place
import WorkloadIdentity.Proofs.Url.Form

/-!
Identities and accounts in addresses. An identity is one segment, whatever is in it; an account is
as many segments as it has slashes. So an account and an identity can be told from the address of
an authentication, where there are always both. An exchange that leaves the identity to the token
has one segment less, and its account can end in what is the identity of another exchange.
-/

namespace WorkloadIdentity.Endpoint

variable {base account other identity otherIdentity : String}

/-! ### The segment of an identity -/

theorem toList_encodedIdentity (identity : String) :
    (encodedIdentity identity).toList = Url.formEncode identity.toList :=
  String.toList_ofList

theorem encodedIdentity_inj :
    encodedIdentity identity = encodedIdentity otherIdentity ↔ identity = otherIdentity := by
  constructor
  · intro h
    rw [← String.toList_inj, toList_encodedIdentity, toList_encodedIdentity] at h
    exact String.toList_inj.mp (Url.formEncode_inj h)
  · rintro rfl
    rfl

theorem slash_not_mem_encodedIdentity (identity : String) :
    '/' ∉ (encodedIdentity identity).toList := by
  rw [toList_encodedIdentity]
  exact Url.not_mem_formEncode (by decide)

/-- No identity reaches beyond its segment: the characters that would end one are written out, and
so are blanks, which a text can lose at its ends. A reader of forms gets the identity back. A reader
of paths gets a plus sign for every space, so it gets the identity back exactly if there is no space
in it. -/
theorem encodedIdentity_is_one_segment (identity : String) :
    (∀ c ∈ (encodedIdentity identity).toList,
      c ≠ '/' ∧ c ≠ '?' ∧ c ≠ '#' ∧ Text.isBlank c = false) ∧
    Url.formDecode (encodedIdentity identity).toList = Utf8.ofString identity ∧
    Url.decode (encodedIdentity identity).toList =
      Utf8.encode (Text.remark ' ' '+' identity.toList) ∧
    (Url.decode (encodedIdentity identity).toList = Utf8.ofString identity ↔
      ' ' ∉ identity.toList) := by
  rw [toList_encodedIdentity]
  have hnot {c d : Char} (hd : Url.isFormChar d = false)
      (hc : c ∈ Url.formEncode identity.toList) : c ≠ d := by
    rintro rfl
    exact Url.not_mem_formEncode hd hc
  refine ⟨fun c hc => ⟨?slash, ?question, ?hash, Url.isBlank_of_mem_formEncode hc⟩,
    Url.formDecode_formEncode _, Url.decode_formEncode _, Url.decode_formEncode_eq_iff⟩
  case slash => exact hnot (by decide) hc
  case question => exact hnot (by decide) hc
  case hash => exact hnot (by decide) hc

/-- The identity `host/my app` arrives as `host/my+app`, which is another identity, and that one
arrives as itself. -/
theorem spaced_identity_is_read_as_another :
    Url.decode (encodedIdentity "host/my app").toList = Utf8.ofString "host/my+app" ∧
    Url.decode (encodedIdentity "host/my+app").toList = Utf8.ofString "host/my+app" ∧
    Utf8.ofString "host/my app" ≠ Utf8.ofString "host/my+app" := by
  decide +kernel

/-! ### Addresses of authentications -/

private theorem address_v5_eq :
    (authenticate base account identity .v5).toList = base.toList ++
      ('/' :: (account.toList ++ '/' :: (encodedIdentity identity).toList) ++
        "/authenticate".toList) := by
  simp [authenticate]

private theorem address_v4_eq :
    (authenticate base account identity .v4).toList =
      base.toList ++ ("/users/".toList ++ (encodedIdentity identity).toList ++
        "/authenticate".toList) := by
  simp [authenticate]

/-- The address of an authentication belongs to one account and one identity, or in the older
version, which does not name the account, to one identity. -/
theorem authenticate_eq_iff (base account other identity otherIdentity : String) :
    (authenticate base account identity .v5 = authenticate base other otherIdentity .v5 ↔
      account = other ∧ identity = otherIdentity) ∧
    (authenticate base account identity .v4 = authenticate base other otherIdentity .v4 ↔
      identity = otherIdentity) := by
  constructor
  · rw [← String.toList_inj, address_v5_eq, address_v5_eq, List.append_cancel_left_eq,
      List.append_cancel_right_eq, List.cons.injEq,
      Text.append_sep_inj (slash_not_mem_encodedIdentity identity)
        (slash_not_mem_encodedIdentity otherIdentity),
      String.toList_inj, String.toList_inj, encodedIdentity_inj]
    simp
  · rw [← String.toList_inj, address_v4_eq, address_v4_eq, List.append_cancel_left_eq,
      List.append_cancel_right_eq, List.append_cancel_left_eq, String.toList_inj,
      encodedIdentity_inj]

/-! ### Addresses of exchanges -/

/-- What an exchange names: the account, and the identity unless it is left to the token. -/
def exchangeName (account : String) : Option String → String
  | some identity => account ++ "/" ++ encodedIdentity identity
  | none => account

theorem exchange_eq (base account : String) (identity : Option String) :
    exchange base account identity =
      base ++ "/" ++ exchangeName account identity ++ "/authenticate" := by
  cases identity with
  | none => rfl
  | some identity => simp only [exchange, exchangeName, String.append_assoc]

theorem exchange_eq_iff_name (base account other : String)
    (identity otherIdentity : Option String) :
    exchange base account identity = exchange base other otherIdentity ↔
      exchangeName account identity = exchangeName other otherIdentity := by
  rw [exchange_eq, exchange_eq, ← String.toList_inj]
  simp only [String.toList_append, List.append_assoc, List.append_cancel_left_eq,
    List.append_cancel_right_eq, String.toList_inj]

theorem exchangeName_some_eq_iff :
    exchangeName account (some identity) = exchangeName other (some otherIdentity) ↔
      account = other ∧ identity = otherIdentity := by
  have hslash (account identity : String) : (exchangeName account (some identity)).toList =
      account.toList ++ '/' :: (encodedIdentity identity).toList := by
    simp [exchangeName]
  rw [← String.toList_inj, hslash, hslash,
    Text.append_sep_inj (slash_not_mem_encodedIdentity identity)
      (slash_not_mem_encodedIdentity otherIdentity),
    String.toList_inj, String.toList_inj, encodedIdentity_inj]

/-- Two exchanges go to one address exactly if they are for the same account and identity, or if
one of them names an identity, the other does not, and the account of the other is the account and
the identity of the one, as they stand in the address. -/
theorem exchange_eq_iff (base account other : String) (identity otherIdentity : Option String) :
    exchange base account identity = exchange base other otherIdentity ↔
      (account = other ∧ identity = otherIdentity) ∨
      (∃ name, identity = some name ∧ otherIdentity = none ∧
        other = account ++ "/" ++ encodedIdentity name) ∨
      (∃ name, identity = none ∧ otherIdentity = some name ∧
        account = other ++ "/" ++ encodedIdentity name) := by
  rw [exchange_eq_iff_name]
  cases identity with
  | none =>
      cases otherIdentity with
      | none => simp [exchangeName]
      | some otherName => simp [exchangeName]
  | some name =>
      cases otherIdentity with
      | none => simp [exchangeName, eq_comm]
      | some otherName => simp [exchangeName_some_eq_iff]

/-- Settings that name the account and, unless it is blank, the login. -/
def naming (account login : String) : Settings :=
  { Settings.default with account := account, login := some login }

/-- The account `org/web` without a login has the address of the account `org` with the login
`web`. -/
theorem exchanges_of_two_accounts_share_address :
    (naming "org" "web").requiredAccount = .ok "org" ∧ (naming "org" "web").identity? = some "web" ∧
    (naming "org/web" "").requiredAccount = .ok "org/web" ∧ (naming "org/web" "").identity? = none ∧
    exchange "https://broker/authn-jwt/svc" "org" (some "web") =
      exchange "https://broker/authn-jwt/svc" "org/web" none := by
  decide +kernel

end WorkloadIdentity.Endpoint
