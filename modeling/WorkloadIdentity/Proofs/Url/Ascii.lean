import WorkloadIdentity.Exchange.Request
import WorkloadIdentity.Proofs.Url.Domain
import WorkloadIdentity.Proofs.Url.Path

/-!
Addresses are written in ASCII, whatever they are read from: names are in their encoded form,
numbers are digits, and in every other place what is beyond ASCII is percent encoded. What is added
to an address before it is requested keeps this. So the limit on the length of an address is a
limit on its bytes.
-/

namespace WorkloadIdentity

namespace Url

open Punycode (isAscii)

variable {raw cs scheme rest tail : List Char} {url : Url} {host : Host} {c : Char}

/-! ### Digits and escapes -/

theorem isAscii_digitChar {n : Nat} (h : n < 16) : isAscii (Nat.digitChar n) = true := by
  have hall : (List.range 16).all (fun n => isAscii (Nat.digitChar n)) = true := by decide
  exact List.all_eq_true.mp hall n (List.mem_range.mpr h)

private theorem isAscii_toDigitsCore {base : Nat} (hbase : 0 < base ∧ base ≤ 16) (fuel n : Nat)
    {found : List Char} (hfound : found.all isAscii = true) :
    (Nat.toDigitsCore base fuel n found).all isAscii = true := by
  induction fuel generalizing n found with
  | zero => exact hfound
  | succ fuel ih =>
      have hdigit : n % base < 16 := Nat.lt_of_lt_of_le (Nat.mod_lt n hbase.1) hbase.2
      have hnext : (Nat.digitChar (n % base) :: found).all isAscii = true := by
        rw [List.all_cons, isAscii_digitChar hdigit, hfound]
        rfl
      unfold Nat.toDigitsCore
      dsimp only
      split
      · exact hnext
      · exact ih _ hnext

theorem isAscii_toDigits {base : Nat} (hbase : 0 < base ∧ base ≤ 16) (n : Nat) :
    (Nat.toDigits base n).all isAscii = true :=
  isAscii_toDigitsCore hbase _ n rfl

theorem isAscii_escape (b : UInt8) : (escape b).all isAscii = true :=
  of_bytes (P := fun b => (escape b).all isAscii = true) (by decide +kernel) b

theorem isAscii_of_not_isControl (h : isControl c = false) : isAscii c = true := by
  simp only [isControl, Bool.or_eq_false_iff, decide_eq_false_iff_not] at h
  simp only [isAscii, decide_eq_true_eq]
  omega

/-- Where controls are reserved, nothing beyond ASCII is left. -/
theorem isAscii_percentEncode {isReserved : Char → Bool}
    (hreserved : ∀ c, isControl c = true → isReserved c = true) (cs : List Char) :
    (percentEncode isReserved cs).all isAscii = true := by
  rw [List.all_eq_true]
  intro c hc
  obtain ⟨d, _, hwritten⟩ := List.mem_flatMap.mp hc
  split at hwritten
  · obtain ⟨b, _, hescape⟩ := List.mem_flatMap.mp hwritten
    exact List.all_eq_true.mp (isAscii_escape b) c hescape
  · next hplain =>
      obtain rfl := List.mem_singleton.mp hwritten
      apply isAscii_of_not_isControl
      rw [Bool.eq_false_iff]
      exact fun hcontrol => hplain (hreserved c hcontrol)

theorem isFragmentReserved_of_isControl (c : Char) (h : isControl c = true) :
    isFragmentReserved c = true := by
  simp only [isFragmentReserved, h, Bool.true_or]

theorem isQueryReserved_of_isControl (c : Char) (h : isControl c = true) :
    isQueryReserved c = true := by
  simp only [isQueryReserved, h, Bool.true_or]

theorem isSpecialQueryReserved_of_isControl (c : Char) (h : isControl c = true) :
    isSpecialQueryReserved c = true := by
  simp only [isSpecialQueryReserved, isQueryReserved_of_isControl c h, Bool.true_or]

theorem isPathReserved_of_isControl (c : Char) (h : isControl c = true) :
    isPathReserved c = true := by
  simp only [isPathReserved, isFragmentReserved_of_isControl c h, Bool.true_or]

theorem isUserReserved_of_isControl (c : Char) (h : isControl c = true) :
    isUserReserved c = true := by
  simp only [isUserReserved, isPathReserved_of_isControl c h, Bool.true_or]

/-! ### Hosts -/

theorem isAscii_hexPieces (pieces : List Nat) : (hexPieces pieces).all isAscii = true := by
  apply isAscii_join rfl
  intro part hpart
  obtain ⟨piece, _, rfl⟩ := List.mem_map.mp hpart
  exact isAscii_toDigits (by decide) piece

theorem isAscii_ipv6Text (pieces : List Nat) : (ipv6Text pieces).all isAscii = true := by
  unfold ipv6Text
  dsimp only
  split
  · exact isAscii_hexPieces pieces
  · rw [List.all_append, List.all_append, isAscii_hexPieces, isAscii_hexPieces]
    rfl

theorem isAscii_ipv4Text (address : Nat) : (ipv4Text address).all isAscii = true := by
  apply isAscii_join rfl
  intro part hpart
  obtain ⟨shift, _, rfl⟩ := List.mem_map.mp hpart
  exact isAscii_toDigits (by decide) _

theorem isAscii_of_bracketed (h : bracketed cs = .ok host) : host.text.all isAscii = true := by
  unfold bracketed at h
  split at h
  · obtain ⟨pieces, -, rfl⟩ := exists_of_map_ok h
    simp only [Host.text, List.all_cons, List.all_append, isAscii_ipv6Text]
    rfl
  · cases h

theorem isAscii_of_parseHost (h : parseHost cs = .ok host) : host.text.all isAscii = true := by
  unfold parseHost at h
  split at h
  · exact isAscii_of_bracketed h
  · split at h
    · cases h
    · obtain ⟨name, hname, h⟩ := exists_of_bind_ok h
      split at h
      · cases h
      · split at h
        · obtain ⟨address, -, rfl⟩ := exists_of_map_ok h
          exact isAscii_ipv4Text address
        · obtain rfl := Except.ok.inj h
          exact Domain.isAscii_of_parse hname

theorem isAscii_of_parsePlainHost (h : parsePlainHost cs = .ok host) :
    host.text.all isAscii = true := by
  unfold parsePlainHost at h
  split at h
  · exact isAscii_of_bracketed h
  · split at h
    · cases h
    · obtain rfl := Except.ok.inj h
      exact isAscii_percentEncode (fun _ h => h) cs

/-! ### Authorities -/

/-- Every part of the authority is written in ASCII. -/
structure Authority.IsAscii (authority : Authority) : Prop where
  username : authority.username.all isAscii = true
  secret : ∀ secret ∈ authority.secret, secret.all isAscii = true
  host : authority.host.text.all isAscii = true

theorem Authority.IsAscii.text {authority : Authority} (h : authority.IsAscii) :
    authority.text.all isAscii = true := by
  unfold Authority.text
  dsimp only
  rw [List.all_append, List.all_append, h.host, Bool.and_true, Bool.and_eq_true]
  constructor
  · split
    · rfl
    · rw [List.all_append, h.username]
      rfl
    · next secret hsecret =>
        rw [List.all_append, List.all_append, List.all_cons, h.username, h.secret secret hsecret]
        rfl
  · split
    · next port _ => exact isAscii_toDigits (by decide) port
    · rfl

theorem isAscii_parseUser (cs : List Char) :
    (parseUser cs).1.all isAscii = true ∧
      ∀ secret ∈ (parseUser cs).2, secret.all isAscii = true := by
  have hencode := isAscii_percentEncode isUserReserved_of_isControl
  unfold parseUser
  dsimp only
  split
  · refine ⟨hencode _, ?_⟩
    intro secret hsecret
    split at hsecret
    · cases hsecret
    · obtain rfl := Option.mem_some.mp hsecret
      exact hencode _
  · exact ⟨hencode _, nofun⟩

theorem isAscii_userOf (cs : List Char) :
    (userOf cs).1.all isAscii = true ∧ ∀ secret ∈ (userOf cs).2, secret.all isAscii = true := by
  unfold userOf
  cases Text.cutLast? '@' cs with
  | none => exact ⟨rfl, nofun⟩
  | some found => exact isAscii_parseUser found.1

theorem isAscii_of_parseAuthority {atEnd : Bool} {authority : Authority}
    (h : parseAuthority scheme atEnd cs = .ok (authority, tail)) : authority.IsAscii := by
  obtain ⟨huser, hhost, -⟩ := parts_of_parseAuthority h
  obtain ⟨husername, hsecret⟩ := isAscii_userOf cs
  rw [huser] at husername hsecret
  exact ⟨husername, hsecret, hhost.elim isAscii_of_parseHost isAscii_of_parsePlainHost⟩

/-! ### Addresses -/

/-- Every part of the address is written in ASCII. -/
structure IsAscii (url : Url) : Prop where
  scheme : url.scheme.all isAscii = true
  authority : ∀ authority ∈ url.authority, authority.IsAscii
  path : url.path.text.all isAscii = true
  query : ∀ query ∈ url.query, query.all isAscii = true
  fragment : ∀ fragment ∈ url.fragment, fragment.all isAscii = true

theorem isAscii_beforePath (h : url.IsAscii) : url.beforePath.all isAscii = true := by
  unfold beforePath
  split
  · next authority hauthority =>
      rw [List.all_append, (h.authority authority hauthority).text]
      rfl
  · split <;> rfl
  · split <;> rfl

theorem IsAscii.href (h : url.IsAscii) : url.href.all isAscii = true := by
  have hquery : ((url.query.map ('?' :: ·)).getD []).all isAscii = true := by
    cases hquery : url.query with
    | none => rfl
    | some query => exact h.query query hquery
  have hfragment : ((url.fragment.map ('#' :: ·)).getD []).all isAscii = true := by
    cases hfragment : url.fragment with
    | none => rfl
    | some fragment => exact h.fragment fragment hfragment
  simp only [Url.href, List.all_append, List.all_cons, h.scheme, h.path, isAscii_beforePath h,
    hquery, hfragment]
  rfl

theorem isAscii_assemble {authority : Option Authority} {path : List Char → Path}
    (hscheme : scheme.all isAscii = true) (hauthority : ∀ a, authority = some a → a.IsAscii)
    (hpath : ∀ text, (path text).text.all isAscii = true) (cs : List Char) :
    (assemble scheme authority path cs).IsAscii where
  scheme := hscheme
  authority := hauthority
  path := hpath _
  query := by
    intro query hquery
    obtain ⟨text, -, rfl⟩ := Option.map_eq_some_iff.mp hquery
    split
    · exact isAscii_percentEncode isSpecialQueryReserved_of_isControl text
    · exact isAscii_percentEncode isQueryReserved_of_isControl text
  fragment := by
    intro fragment hfragment
    obtain ⟨text, -, rfl⟩ := Option.map_eq_some_iff.mp hfragment
    exact isAscii_percentEncode isFragmentReserved_of_isControl text

theorem isAscii_unhosted {path : List Char → Path} (hscheme : scheme.all isAscii = true)
    (hpath : ∀ text, (path text).text.all isAscii = true) (cs : List Char) :
    (assemble scheme none path cs).IsAscii := by
  apply isAscii_assemble hscheme _ hpath
  rintro _ ⟨⟩

theorem isAscii_parseSegments (special : Bool) (cs : List Char) :
    (Path.segments (parseSegments special cs)).text.all isAscii = true := by
  rw [List.all_eq_true]
  intro c hc
  obtain ⟨part, hpart, hc⟩ := List.mem_flatMap.mp hc
  rcases List.mem_cons.mp hc with rfl | hc
  · rfl
  · rcases mem_parseSegments hpart with rfl | ⟨next, -, rfl⟩
    · cases hc
    · have hnext := isAscii_percentEncode isPathReserved_of_isControl next
      exact List.all_eq_true.mp hnext c hc

theorem isAscii_parsePath (special : Bool) (cs : List Char) :
    (parsePath special cs).text.all isAscii = true := by
  unfold parsePath
  split
  · rfl
  · exact isAscii_parseSegments special cs

private theorem isAscii_toLower (h : isSchemeChar c = true) : isAscii c.toLower = true := by
  have hprintable := range_of_isSchemeChar h
  exact of_ascii (P := fun c => isAscii c.toLower = true) (by decide +kernel) (by omega)

theorem isAscii_of_cutScheme? (h : cutScheme? cs = some (scheme, rest)) :
    scheme.all isAscii = true := by
  simp only [cutScheme?] at h
  split at h
  · split at h
    · cases h
      rw [List.all_eq_true]
      intro c hc
      obtain ⟨d, hd, rfl⟩ := List.mem_map.mp hc
      exact isAscii_toLower (List.mem_takeWhile_imp hd)
    · cases h
  · cases h

theorem isAscii_of_parseBehindSlashes (hscheme : scheme.all isAscii = true)
    (h : parseBehindSlashes scheme cs = .ok url) : url.IsAscii := by
  obtain ⟨⟨authority, tail⟩, hauthority, h⟩ := exists_of_bind_ok h
  obtain rfl := Except.ok.inj h
  apply isAscii_assemble hscheme _ (isAscii_parsePath _)
  rintro _ ⟨⟩
  exact isAscii_of_parseAuthority hauthority

theorem isAscii_of_parseFile (hscheme : scheme.all isAscii = true)
    (h : parseFile scheme cs = .ok url) : url.IsAscii := by
  have hlocal := isAscii_unhosted hscheme (isAscii_parseSegments true)
  unfold parseFile at h
  dsimp only at h
  split at h
  · split at h
    · split at h
      · cases h
        exact hlocal _
      · split at h
        · cases h
          exact hlocal _
        · obtain ⟨host, hhost, h⟩ := exists_of_bind_ok h
          obtain rfl := Except.ok.inj h
          apply isAscii_assemble hscheme _ (isAscii_parsePath true)
          rintro _ ⟨⟩
          refine ⟨rfl, nofun, ?_⟩
          dsimp only
          split
          · rfl
          · exact isAscii_of_parseHost hhost
    · cases h
      exact hlocal _
  · cases h
    exact hlocal _

/-- Every address is written in ASCII. -/
theorem isAscii_of_parse (h : parse raw = .ok url) : url.IsAscii := by
  unfold parse at h
  split at h
  · cases h
  · next scheme rest hcut =>
      have hscheme := isAscii_of_cutScheme? hcut
      split at h
      · exact isAscii_of_parseFile hscheme h
      · split at h
        · exact isAscii_of_parseBehindSlashes hscheme h
        · split at h
          · exact isAscii_of_parseBehindSlashes hscheme h
          · cases h
            exact isAscii_unhosted hscheme (isAscii_parsePath false) _
          · cases h
            apply isAscii_unhosted hscheme
            exact isAscii_percentEncode (fun _ h => h)

/-! ### Requests -/

theorem IsAscii.withoutUser (h : url.IsAscii) : url.withoutUser.IsAscii where
  scheme := h.scheme
  authority := by
    intro authority hauthority
    obtain ⟨own, hown, rfl⟩ := Option.map_eq_some_iff.mp hauthority
    exact ⟨rfl, nofun, (h.authority own hown).host⟩
  path := h.path
  query := h.query
  fragment := h.fragment

theorem isAscii_formEncode (cs : List Char) : (formEncode cs).all isAscii = true := by
  rw [List.all_eq_true]
  intro c hc
  obtain ⟨b, _, hc⟩ := List.mem_flatMap.mp hc
  have hall : (formByte b).all isAscii = true :=
    of_bytes (P := fun b => (formByte b).all isAscii = true) (by decide +kernel) b
  exact List.all_eq_true.mp hall c hc

theorem IsAscii.addQuery (h : url.IsAscii) (pairs : List (List Char × List Char)) :
    (url.addQuery pairs).IsAscii where
  scheme := h.scheme
  authority := h.authority
  path := h.path
  query := by
    intro query hquery
    simp only [Url.addQuery, Option.mem_def] at hquery
    split at hquery
    · cases hquery
    · obtain rfl := Option.some.inj hquery
      apply isAscii_join rfl
      intro part hpart
      rcases List.mem_append.mp hpart with hold | hwritten
      · obtain ⟨hold, _⟩ := Option.mem_filter_iff.mp (Option.mem_toList.mp hold)
        exact h.query part hold
      · obtain ⟨⟨name, value⟩, _, rfl⟩ := List.mem_map.mp hwritten
        rw [formPair, List.all_append, List.all_cons, isAscii_formEncode, isAscii_formEncode]
        rfl
  fragment := h.fragment

theorem length_encode_of_isAscii (h : cs.all isAscii = true) : (Utf8.encode cs).length = cs.length := by
  induction cs with
  | nil => rfl
  | cons c cs ih =>
      obtain ⟨hc, hcs⟩ := Bool.and_eq_true_iff.mp (List.all_cons.symm.trans h)
      have hone : (String.utf8EncodeChar c).length = 1 := by
        rw [String.length_utf8EncodeChar, Char.utf8Size_eq_one_iff]
        have hlow : c.toNat < 0x80 := of_decide_eq_true hc
        exact Nat.le_of_lt_succ hlow
      rw [Utf8.encode, List.flatMap_cons, List.length_append, hone, List.length_cons]
      rw [Utf8.encode] at ih
      rw [ih hcs, Nat.add_comm]

end Url

namespace Request

variable {method : Method} {address : String} {query headers : List (String × String)}
  {body : Body} {request : Request}

/-- Of every request that is built, the address is written in ASCII and fits, byte for byte, into
the first line. -/
theorem address_of_build (h : build method address query headers body = .ok request) :
    request.url.IsAscii ∧ (Utf8.encode request.url.href).length ≤ maxAddress := by
  unfold build at h
  split at h
  · cases h
  · next url hurl =>
      have hown := (Url.isAscii_of_parse hurl).withoutUser
      split at h
      · cases h
      · split at h
        · cases h
        · extract_lets pairs asked at h
          have hascii : asked.IsAscii := by
            dsimp only [asked]
            split
            · exact hown
            · exact hown.addQuery pairs
          clear_value asked
          split at h
          · cases h
          · split at h
            · cases h
            · next hsendable =>
                cases h
                refine ⟨hascii, ?_⟩
                rw [Url.length_encode_of_isAscii hascii.href]
                simp only [isSendable, Bool.not_eq_true', Bool.not_eq_false, Bool.and_eq_true,
                  decide_eq_true_eq] at hsendable
                exact hsendable.1.2

end Request

end WorkloadIdentity
