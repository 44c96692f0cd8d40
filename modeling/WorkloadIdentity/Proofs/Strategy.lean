import WorkloadIdentity.Proofs.Text.Blank
import WorkloadIdentity.Proofs.Url.Path
import WorkloadIdentity.Strategy

/-!
The strategy that an address names. What is declared may have blanks around it and a slash behind
the name. A segment of an address has neither, so there it is the name itself or no declaration, and
as no segment is two names, it does not matter which strategy is tried first. The first segment that
is a name is taken; it stands in the path of the address, between its slashes, as it is.
-/

namespace WorkloadIdentity.Strategy

variable {strategy : Strategy} {segment : List Char} {segments : List (List Char)}

/-- No strategy's name is empty or escaped. -/
theorem name_plain (strategy : Strategy) :
    strategy.name.toList ≠ [] ∧ '%' ∉ strategy.name.toList := by
  cases strategy <;> decide

/-- A segment declares only the strategy that it is the name of. -/
theorem isDeclaredBy_iff (h : Url.IsSegment segment) :
    strategy.isDeclaredBy segment = true ↔ segment = strategy.name.toList := by
  unfold isDeclaredBy
  constructor
  · intro hdeclared
    split at hdeclared
    · next rest hafter =>
        rw [Text.after?_eq_some_iff] at hafter
        cases rest with
        | nil => rw [hafter, List.append_nil]
        | cons c rest =>
            obtain rfl : c = '/' := by simpa using hdeclared
            have hmem : '/' ∈ segment := by simp [hafter]
            exact absurd rfl (h _ hmem).1
    · cases hdeclared
  · rintro rfl
    rw [Text.after?_eq_some_iff.mpr (List.append_nil _).symm]
    rfl

theorem resolve_segment (h : Url.IsSegment segment) :
    (resolve (String.ofList segment)).toOption =
      all.find? fun strategy => segment == strategy.name.toList := by
  have htrim : Text.trim segment = segment := Text.trim_of_forall fun c hc => (h c hc).2
  have hsame : (fun strategy : Strategy => strategy.isDeclaredBy segment) =
      fun strategy => segment == strategy.name.toList := by
    funext strategy
    rw [Bool.eq_iff_iff, isDeclaredBy_iff h, beq_iff_eq]
  simp only [resolve, String.toList_ofList, htrim, hsame]
  split
  · next hfound => rw [hfound]; rfl
  · next hnone => rw [hnone]; rfl

theorem resolve_eq_some_iff (h : Url.IsSegment segment) :
    (resolve (String.ofList segment)).toOption = some strategy ↔
      segment = strategy.name.toList := by
  rw [resolve_segment h]
  constructor
  · intro hfound
    exact eq_of_beq (List.find?_some (p := fun other : Strategy => segment == other.name.toList)
      hfound)
  · rintro rfl
    cases strategy <;> decide

theorem resolve_eq_none_iff (h : Url.IsSegment segment) :
    (resolve (String.ofList segment)).toOption = none ↔
      ∀ other : Strategy, segment ≠ other.name.toList := by
  simp only [Option.eq_none_iff_forall_ne_some, ne_eq, resolve_eq_some_iff h]

/-- The leftmost name among the segments is taken. -/
theorem ofSegments?_eq_some_iff (h : ∀ segment ∈ segments, Url.IsSegment segment) :
    ofSegments? segments = some strategy ↔ ∃ before after,
      segments = before ++ strategy.name.toList :: after ∧
        ∀ segment ∈ before, ∀ other : Strategy, segment ≠ other.name.toList := by
  rw [ofSegments?, List.findSome?_eq_some_iff]
  constructor
  · rintro ⟨before, segment, after, rfl, hnamed, hbefore⟩
    rw [resolve_eq_some_iff (h _ (by simp))] at hnamed
    refine ⟨before, after, by rw [hnamed], fun other hother => ?_⟩
    exact (resolve_eq_none_iff (h _ (List.mem_append_left _ hother))).mp (hbefore _ hother)
  · rintro ⟨before, after, rfl, hbefore⟩
    refine ⟨before, _, after, rfl, (resolve_eq_some_iff (h _ (by simp))).mpr rfl, ?_⟩
    intro other hother
    exact (resolve_eq_none_iff (h _ (List.mem_append_left _ hother))).mpr (hbefore _ hother)

theorem ofSegments?_eq_none_iff (h : ∀ segment ∈ segments, Url.IsSegment segment) :
    ofSegments? segments = none ↔
      ∀ segment ∈ segments, ∀ other : Strategy, segment ≠ other.name.toList := by
  rw [ofSegments?, List.findSome?_eq_none_iff]
  exact forall₂_congr fun segment hsegment => resolve_eq_none_iff (h segment hsegment)

/-! ### Addresses -/

variable {raw : String} {url : Url}

theorem ofUrl_of_error {fault : UrlFault} (h : Url.parse raw.toList = .error fault) :
    ofUrl raw = .error (.settings (.urlInvalid raw fault)) := by
  rw [ofUrl, h]

theorem ofUrl_of_ok (h : Url.parse raw.toList = .ok url) :
    ofUrl raw = match ofSegments? ((url.pathSegments?).getD []) with
      | some strategy => .ok strategy
      | none => .error (.unsupportedStrategy raw) := by
  cases hfound : ofSegments? ((url.pathSegments?).getD []) with
  | none => simp only [ofUrl, h, hfound]
  | some found => simp only [ofUrl, h, hfound]

theorem ofUrl_eq_ok_iff : ofUrl raw = .ok strategy ↔ ∃ url before after,
    Url.parse raw.toList = .ok url ∧
      url.pathSegments? = some (before ++ strategy.name.toList :: after) ∧
      ∀ segment ∈ before, ∀ other : Strategy, segment ≠ other.name.toList := by
  cases hparse : Url.parse raw.toList with
  | error fault =>
      rw [ofUrl_of_error hparse]
      exact iff_of_false nofun nofun
  | ok url =>
      have hsegments : ∀ segment ∈ (url.pathSegments?).getD [], Url.IsSegment segment :=
        fun _ => Url.isSegment_of_mem_pathSegments? hparse
      have hsome (before after : List (List Char)) :
          (url.pathSegments?).getD [] = before ++ strategy.name.toList :: after ↔
            url.pathSegments? = some (before ++ strategy.name.toList :: after) := by
        cases url.pathSegments? with
        | none => simp
        | some parts => simp
      have hfirst : ofUrl raw = .ok strategy ↔
          ofSegments? ((url.pathSegments?).getD []) = some strategy := by
        rw [ofUrl_of_ok hparse]
        cases ofSegments? ((url.pathSegments?).getD []) with
        | none => exact iff_of_false nofun nofun
        | some found => rw [Except.ok.injEq, Option.some.injEq]
      rw [hfirst, ofSegments?_eq_some_iff hsegments]
      simp only [hsome, Except.ok.injEq, exists_and_left, exists_eq_left']

theorem ofUrl_eq_error_iff {failure : Failure} : ofUrl raw = .error failure ↔
    (∃ fault, Url.parse raw.toList = .error fault ∧
      failure = .settings (.urlInvalid raw fault)) ∨
    ∃ url, Url.parse raw.toList = .ok url ∧
      (∀ segment ∈ (url.pathSegments?).getD [], ∀ other : Strategy,
        segment ≠ other.name.toList) ∧
      failure = .unsupportedStrategy raw := by
  cases hparse : Url.parse raw.toList with
  | error fault =>
      rw [ofUrl_of_error hparse]
      simp [eq_comm]
  | ok url =>
      have hsegments : ∀ segment ∈ (url.pathSegments?).getD [], Url.IsSegment segment :=
        fun _ => Url.isSegment_of_mem_pathSegments? hparse
      rw [ofUrl_of_ok hparse]
      simp only [← ofSegments?_eq_none_iff hsegments, reduceCtorEq, false_and, exists_false,
        false_or, Except.ok.injEq, exists_eq_left']
      cases ofSegments? ((url.pathSegments?).getD []) with
      | none => simp [eq_comm]
      | some found => simp

/-- The name that is taken is written in the address: in its path, between two slashes or at an end,
with nothing written out. -/
theorem exists_layout_of_ofUrl (h : ofUrl raw = .ok strategy) :
    ∃ url rest authority path behind,
      Url.parse raw.toList = .ok url ∧
        Url.cutScheme? (Url.clean raw.toList) = some (url.scheme, rest) ∧
        Url.Layout rest url authority path behind ∧
        strategy.name.toList ∈ Text.splitBy (Url.isSlash (Url.isSpecial url.scheme)) path := by
  obtain ⟨url, before, after, hparse, hsegments, -⟩ := ofUrl_eq_ok_iff.mp h
  obtain ⟨rest, authority, path, behind, hscheme, hlayout⟩ := Url.layout_of_parse hparse
  have hmem : strategy.name.toList ∈ (url.pathSegments?).getD [] := by simp [hsegments]
  obtain ⟨hsome, hpercent⟩ := name_plain strategy
  exact ⟨url, rest, authority, path, behind, hparse, hscheme, hlayout,
    hlayout.mem_splitBy hmem hsome hpercent⟩

/-- What an address names is the leftmost segment of its path that is the name of a strategy, and
that name stands between slashes in the text of the path, as it is. A text that is no address is a
fault of the settings, an address without such a segment one that names no strategy. -/
theorem ofUrl_takes_leftmost_name (raw : String) :
    (∀ strategy, ofUrl raw = .ok strategy ↔ ∃ url before after,
      Url.parse raw.toList = .ok url ∧
        url.pathSegments? = some (before ++ strategy.name.toList :: after) ∧
        ∀ segment ∈ before, ∀ other : Strategy, segment ≠ other.name.toList) ∧
    (∀ strategy, ofUrl raw = .ok strategy → ∃ url rest authority path behind,
      Url.parse raw.toList = .ok url ∧
        Url.cutScheme? (Url.clean raw.toList) = some (url.scheme, rest) ∧
        Url.Layout rest url authority path behind ∧
        strategy.name.toList ∈ Text.splitBy (Url.isSlash (Url.isSpecial url.scheme)) path) ∧
    ∀ failure, ofUrl raw = .error failure ↔
      (∃ fault, Url.parse raw.toList = .error fault ∧
        failure = .settings (.urlInvalid raw fault)) ∨
      ∃ url, Url.parse raw.toList = .ok url ∧
        (∀ segment ∈ (url.pathSegments?).getD [], ∀ other : Strategy,
          segment ≠ other.name.toList) ∧
        failure = .unsupportedStrategy raw :=
  ⟨fun _ => ofUrl_eq_ok_iff, fun _ => exists_layout_of_ofUrl, fun _ => ofUrl_eq_error_iff⟩

/-- Names in the host, in longer segments, behind an escape or a question mark are passed over. -/
example : (ofUrl "https://authn-gcp/authn%2Djwt/authn-jwts\\authn-k8s/prod?/authn-jwt").toOption =
    some .certificate := by
  decide +kernel

end WorkloadIdentity.Strategy
