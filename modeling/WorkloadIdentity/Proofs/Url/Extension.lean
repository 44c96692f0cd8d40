import WorkloadIdentity.Proofs.Url.Authority

/-!
An address with more text behind it. What remains of an address is its scheme, slashes, the text of
its authority and the text behind that. Text that is appended belongs to the last of these, unless
the authority runs to the end. Scheme and authority of an address are therefore those of every
address that it is extended to with a slash and anything behind it, if that is an address at all.
-/

namespace WorkloadIdentity.Url

variable {cs more raw extended scheme margin later : List Char} {url own : Url}

/-! ### How an address is cut -/

/-- What remains of an address behind a special scheme, cut into the parts it is read by. -/
structure Cut (cs scheme authority behind : List Char) : Prop where
  begins : ∃ slashes, (∀ c ∈ slashes, isSlash true c = true) ∧
    cutScheme? cs = some (scheme, slashes ++ (authority ++ behind))
  inside : ∀ c ∈ authority, endsAuthority true c = false
  ends : ∀ c ∈ behind.head?, endsAuthority true c = true

namespace Cut

variable {authority behind : List Char}

/-- Behind the authority there is room for more. -/
theorem append (more : List Char) (h : Cut cs scheme authority behind) (hbehind : behind ≠ []) :
    Cut (cs ++ more) scheme authority (behind ++ more) := by
  obtain ⟨slashes, hslashes, hscheme⟩ := h.begins
  obtain ⟨c, rest, rfl⟩ := List.exists_cons_of_ne_nil hbehind
  refine ⟨⟨slashes, hslashes, ?_⟩, h.inside, h.ends⟩
  simpa only [List.append_assoc] using cutScheme?_append hscheme

/-- An authority that runs to the end goes on up to the next character that ends one. -/
theorem append_inside (h : Cut cs scheme authority [])
    (hmargin : ∀ c ∈ margin, endsAuthority true c = false)
    (hlater : ∀ c ∈ later.head?, endsAuthority true c = true) :
    Cut (cs ++ (margin ++ later)) scheme (authority ++ margin) later := by
  obtain ⟨slashes, hslashes, hscheme⟩ := h.begins
  refine ⟨⟨slashes, hslashes, ?_⟩, ?_, hlater⟩
  · simpa only [List.append_assoc, List.append_nil, List.nil_append] using
      cutScheme?_append hscheme
  · intro c hc
    rcases List.mem_append.mp hc with hc | hc
    · exact h.inside c hc
    · exact hmargin c hc

theorem no_backslash (h : Cut cs scheme authority behind) : '\\' ∉ authority := by
  intro hmem
  exact absurd (h.inside _ hmem) (by decide)

end Cut

private theorem takeWhile_inside {authority behind : List Char}
    (hinside : ∀ c ∈ authority, endsAuthority true c = false)
    (hends : ∀ c ∈ behind.head?, endsAuthority true c = true) :
    (authority ++ behind).takeWhile (fun c => !endsAuthority true c) = authority ∧
      (authority ++ behind).dropWhile (fun c => !endsAuthority true c) = behind := by
  have hrun : ∀ c ∈ authority, (!endsAuthority true c) = true := by
    intro c hc
    rw [hinside c hc]
    rfl
  rw [List.takeWhile_append_of_pos hrun, List.dropWhile_append_of_pos hrun]
  cases behind with
  | nil => exact ⟨List.append_nil _, rfl⟩
  | cons c behind =>
      have hc : (!endsAuthority true c) = false := by
        rw [hends c rfl]
        rfl
      simp only [List.takeWhile_cons, List.dropWhile_cons, hc, Bool.false_eq_true, if_false,
        List.append_nil, and_self]

/-- A special scheme other than that of files. -/
def isRemote (scheme : List Char) : Bool := isSpecial scheme && scheme != "file".toList

theorem parse_of_cut {authority behind : List Char} (hcut : Cut (clean raw) scheme authority behind)
    (hauthority : authority ≠ []) (hremote : isRemote scheme = true) :
    parse raw = (parseAuthority scheme true authority).map fun (found, tail) =>
      assemble scheme (some found) (parsePath true) (tail ++ behind) := by
  obtain ⟨hspecial, hfile⟩ : isSpecial scheme = true ∧ (scheme == "file".toList) = false := by
    simpa [isRemote] using hremote
  obtain ⟨slashes, hslashes, hscheme⟩ := hcut.begins
  have hdrop : (slashes ++ (authority ++ behind)).dropWhile (isSlash true) =
      authority ++ behind := by
    obtain ⟨c, rest, rfl⟩ := List.exists_cons_of_ne_nil hauthority
    have hc := isSlash_of_not_ends (hcut.inside c List.mem_cons_self)
    rw [List.dropWhile_append_of_pos hslashes, List.cons_append, List.dropWhile_cons_of_neg]
    simp only [hc, Bool.false_eq_true, not_false_eq_true]
  obtain ⟨htake, hrest⟩ := takeWhile_inside hcut.inside hcut.ends
  simp only [parse, hscheme, hfile, hspecial, hdrop, Bool.false_eq_true, if_false, if_true,
    parseBehindSlashes, htake, hrest, parseAuthority_special hspecial]
  cases parseHost (cutHost false (hostText authority)).1 with
  | error _ => rfl
  | ok _ =>
      cases parsePort scheme (cutHost false (hostText authority)).2 with
      | error _ => rfl
      | ok _ => rfl

private theorem scheme_of_parseBehindSlashes (h : parseBehindSlashes scheme cs = .ok url) :
    url.scheme = scheme := by
  simp only [parseBehindSlashes] at h
  generalize parseAuthority scheme _ _ = found at h
  cases found with
  | error _ => cases h
  | ok _ =>
      cases h
      rfl

private theorem scheme_of_parseFile (h : parseFile scheme cs = .ok url) : url.scheme = scheme := by
  unfold parseFile at h
  split at h
  · dsimp only at h
    split at h
    · split at h
      · cases h
        rfl
      · split at h
        · cases h
          rfl
        · generalize parseHost _ = host at h
          cases host with
          | error _ => cases h
          | ok _ =>
              cases h
              rfl
    · cases h
      rfl
  · cases h
    rfl

theorem parse_scheme (h : parse raw = .ok url) :
    ∃ rest, cutScheme? (clean raw) = some (url.scheme, rest) := by
  unfold parse at h
  split at h
  · cases h
  · next scheme rest hcut =>
      have hscheme : url.scheme = scheme := by
        split at h
        · exact scheme_of_parseFile h
        · split at h
          · exact scheme_of_parseBehindSlashes h
          · split at h
            · exact scheme_of_parseBehindSlashes h
            · cases h
              rfl
            · cases h
              rfl
      exact ⟨rest, hscheme ▸ hcut⟩

/-- How an address behind a special scheme is read: the text of its authority, the authority that
this stands for, and the text behind it. -/
structure Reads (raw : List Char) (url : Url) (text : List Char) (found : Authority)
    (behind : List Char) : Prop where
  remote : isRemote url.scheme = true
  cut : Cut (clean raw) url.scheme text behind
  nonempty : text ≠ []
  parsed : parseAuthority url.scheme true text = .ok (found, [])
  assembled : url = assemble url.scheme (some found) (parsePath true) behind

/-- Every address behind a special scheme is read so. -/
theorem reads_of_parse (h : parse raw = .ok url) (hremote : isRemote url.scheme = true) :
    ∃ text found behind, Reads raw url text found behind := by
  obtain ⟨rest, hscheme⟩ := parse_scheme h
  obtain ⟨hspecial, hfile⟩ :
      isSpecial url.scheme = true ∧ (url.scheme == "file".toList) = false := by
    simpa [isRemote] using hremote
  let tail := rest.dropWhile (isSlash true)
  let text := tail.takeWhile fun c => !endsAuthority true c
  let behind := tail.dropWhile fun c => !endsAuthority true c
  have hcut : Cut (clean raw) url.scheme text behind := by
    refine ⟨⟨rest.takeWhile (isSlash true), fun _ hc => List.mem_takeWhile_imp hc, ?_⟩, ?_, ?_⟩
    · rw [List.takeWhile_append_dropWhile, List.takeWhile_append_dropWhile]
      exact hscheme
    · intro c hc
      simpa using List.mem_takeWhile_imp hc
    · intro c hc
      have hstop := List.head?_dropWhile_not (fun c => !endsAuthority true c) tail
      simp only [Option.mem_def] at hc
      simpa [behind, hc] using hstop
  have hparse : (parseAuthority url.scheme behind.isEmpty text).map (fun (found, tail) =>
      assemble url.scheme (some found) (parsePath true) (tail ++ behind)) = .ok url := by
    simp only [parse, hscheme, hfile, hspecial, Bool.false_eq_true, if_false, if_true] at h
    rw [← h]
    simp only [parseBehindSlashes, hspecial]
    rfl
  have hatEnd : parseAuthority url.scheme behind.isEmpty text =
      parseAuthority url.scheme true text := by
    rw [parseAuthority_special hspecial, parseAuthority_special hspecial]
  rw [hatEnd] at hparse
  cases hfound : parseAuthority url.scheme true text with
  | error _ =>
      rw [hfound] at hparse
      cases hparse
  | ok found =>
      obtain ⟨found, tail⟩ := found
      obtain rfl := tail_of_parseAuthority_ok hspecial hcut.no_backslash hfound
      rw [hfound] at hparse
      refine ⟨text, found, behind, hremote, hcut, ?_, hfound, (Except.ok.inj hparse).symm⟩
      intro hnil
      rw [hnil, parseAuthority_special hspecial] at hfound
      cases hfound

/-! ### The extended address -/

namespace Reads

variable {text behind : List Char} {found : Authority}

theorem special (h : Reads raw own text found behind) : isSpecial own.scheme = true :=
  (Bool.and_eq_true_iff.mp h.remote).1

theorem scheme_authority (h : Reads raw own text found behind) (path : List Char) :
    (assemble own.scheme (some found) (parsePath true) path).scheme = own.scheme ∧
      (assemble own.scheme (some found) (parsePath true) path).authority = own.authority :=
  ⟨rfl, (congrArg Url.authority h.assembled).symm⟩

/-- What is put behind an address goes behind its authority, if there is anything behind that or it
begins with a slash. -/
theorem parse_extended (h : Reads raw own text found behind)
    (hclean : clean extended = clean raw ++ (margin ++ later))
    (hlater : ∀ c ∈ later.head?, c = '/') (hroom : behind ≠ [] ∨ margin = []) :
    parse extended =
      .ok (assemble own.scheme (some found) (parsePath true) (behind ++ (margin ++ later))) := by
  by_cases hbehind : behind = []
  · obtain rfl : margin = [] := hroom.resolve_left (not_not_intro hbehind)
    have hends : ∀ c ∈ later.head?, endsAuthority true c = true := by
      intro c hc
      rw [hlater c hc]
      rfl
    have hcut : Cut (clean raw ++ ([] ++ later)) own.scheme (text ++ []) later :=
      (hbehind ▸ h.cut).append_inside nofun hends
    rw [← hclean, List.append_nil] at hcut
    rw [parse_of_cut hcut h.nonempty h.remote, h.parsed, hbehind]
    rfl
  · have hcut := h.cut.append (margin ++ later) hbehind
    rw [← hclean] at hcut
    rw [parse_of_cut hcut h.nonempty h.remote, h.parsed]
    rfl

/-- Margins that would belong to the authority leave no address. -/
theorem parse_extended_ne_ok (h : Reads raw own text found [])
    (hclean : clean extended = clean raw ++ (margin ++ later))
    (hmargin : ∀ c ∈ margin, isMargin c = true) (hlater : ∀ c ∈ later.head?, c = '/')
    (hmore : margin ≠ []) : parse extended ≠ .ok url := by
  intro hurl
  have hends : ∀ c ∈ later.head?, endsAuthority true c = true := by
    intro c hc
    rw [hlater c hc]
    rfl
  have hcut := h.cut.append_inside (fun c hc => endsAuthority_of_isMargin (hmargin c hc)) hends
  rw [← hclean] at hcut
  have hlonger : text ++ margin ≠ [] := by simp [h.nonempty]
  rw [parse_of_cut hcut hlonger h.remote] at hurl
  cases hrefused : parseAuthority own.scheme true (text ++ margin) with
  | error _ =>
      rw [hrefused] at hurl
      cases hurl
  | ok _ =>
      exact parseAuthority_append_ne_ok h.special h.cut.no_backslash h.parsed hmore hmargin hrefused

end Reads

/-- Scheme and authority of an address are not touched by what is put behind it. -/
theorem authority_of_extended (hown : parse raw = .ok own) (hremote : isRemote own.scheme = true)
    (hclean : clean extended = clean raw ++ (margin ++ later))
    (hmargin : ∀ c ∈ margin, isMargin c = true) (hlater : ∀ c ∈ later.head?, c = '/')
    (hurl : parse extended = .ok url) :
    url.scheme = own.scheme ∧ url.authority = own.authority := by
  obtain ⟨text, found, behind, hreads⟩ := reads_of_parse hown hremote
  by_cases hroom : behind ≠ [] ∨ margin = []
  · rw [hreads.parse_extended hclean hlater hroom] at hurl
    obtain rfl := Except.ok.inj hurl
    exact hreads.scheme_authority _
  · rw [not_or, not_not] at hroom
    obtain ⟨rfl, hmore⟩ := hroom
    exact absurd hurl (hreads.parse_extended_ne_ok hclean hmargin hlater hmore)

/-! ### Text around an address -/

theorem parse_congr (h : clean raw = clean extended) : parse raw = parse extended := by
  unfold parse
  rw [h]

theorem exists_inside_of_parse (h : parse raw = .ok url) : ∃ c ∈ raw, isEdge c = false := by
  apply exists_inside_of_clean
  intro hnil
  obtain ⟨rest, hscheme⟩ := parse_scheme h
  rw [hnil] at hscheme
  cases hscheme

/-- What remains of a text that begins with a slash. -/
def behindSlash (rest : List Char) : List Char :=
  (('/' :: rest).rdropWhile isEdge).filter fun c => !isTabOrBreak c

theorem head_behindSlash (rest : List Char) : ∀ c ∈ (behindSlash rest).head?, c = '/' := by
  have hne : ('/' :: rest).rdropWhile isEdge ≠ [] := by
    intro hnil
    have hedge := List.rdropWhile_eq_nil_iff.mp hnil '/' List.mem_cons_self
    exact absurd hedge (by decide)
  obtain ⟨c, kept, hkept⟩ := List.exists_cons_of_ne_nil hne
  obtain ⟨dropped, hdropped⟩ := List.rdropWhile_prefix (p := isEdge) (l := '/' :: rest)
  rw [hkept] at hdropped
  obtain rfl : c = '/' := (List.cons.inj hdropped).1
  intro d hd
  rw [behindSlash, hkept] at hd
  exact (Option.some.inj hd).symm

theorem clean_append_slash {rest : List Char} (hraw : ∃ c ∈ raw, isEdge c = false) :
    clean (raw ++ '/' :: rest) = clean raw ++ (droppedEnd raw ++ behindSlash rest) :=
  clean_append hraw ⟨'/', List.mem_cons_self, by decide⟩

theorem isMargin_of_mem_droppedEnd {c : Char} (h : c ∈ droppedEnd cs) : isMargin c = true := by
  rw [isMargin, (of_mem_droppedEnd h).1]
  rfl

/-- A slash behind an address leaves the authority as it is, whatever follows. -/
theorem authority_of_slash {rest : List Char} (hown : parse raw = .ok own)
    (hremote : isRemote own.scheme = true) (hurl : parse (raw ++ '/' :: rest) = .ok url) :
    url.scheme = own.scheme ∧ url.authority = own.authority := by
  apply authority_of_extended hown hremote (clean_append_slash (exists_inside_of_parse hown)) _
    (head_behindSlash rest) hurl
  intro c hc
  exact isMargin_of_mem_droppedEnd hc

private theorem cutScheme?_of_blank {c : Char} (h : Text.isBlank c = true) :
    cutScheme? (c :: cs) = none := by
  have hmargin : isMargin c = true := by
    rw [isMargin, h, Bool.or_true]
  have hc : isSchemeChar c = false := isSchemeChar_of_isMargin hmargin
  simp [cutScheme?, hc]

/-- Nor do blanks around it and slashes at its end. -/
theorem authority_of_surrounded {lead slashes trail : List Char} (hown : parse raw = .ok own)
    (hremote : isRemote own.scheme = true) (hlead : ∀ c ∈ lead, Text.isBlank c = true)
    (hslashes : ∀ c ∈ slashes, c = '/') (htrail : ∀ c ∈ trail, Text.isBlank c = true)
    (hurl : parse (lead ++ (raw ++ (slashes ++ trail))) = .ok url) :
    url.scheme = own.scheme ∧ url.authority = own.authority := by
  have hraw := exists_inside_of_parse hown
  have hinner : ∃ c ∈ raw ++ (slashes ++ trail), isEdge c = false := by
    obtain ⟨c, hc, hedge⟩ := hraw
    exact ⟨c, List.mem_append_left _ hc, hedge⟩
  have hstart : parse (raw ++ (slashes ++ trail)) = .ok url := by
    rw [← hurl]
    apply parse_congr
    by_cases hedges : ∀ c ∈ lead, isEdge c = true
    · exact (clean_of_edges_append hedges).symm
    · exfalso
      obtain ⟨c, hc, hedge⟩ : ∃ c ∈ lead, isEdge c = false := by simpa using hedges
      have hne : clean lead ≠ [] := List.ne_nil_of_mem ((mem_clean_iff hedge).mpr hc)
      obtain ⟨d, rest, hcons⟩ := List.exists_cons_of_ne_nil hne
      have hd : Text.isBlank d = true := by
        apply hlead
        apply clean_subset
        rw [hcons]
        exact List.mem_cons_self
      obtain ⟨behind, hscheme⟩ := parse_scheme hurl
      rw [clean_append ⟨c, hc, hedge⟩ hinner, hcons, List.cons_append, cutScheme?_of_blank hd]
        at hscheme
      cases hscheme
  cases slashes with
  | cons slash slashes =>
      obtain rfl : slash = '/' := hslashes _ List.mem_cons_self
      exact authority_of_slash hown hremote hstart
  | nil =>
      rw [List.nil_append] at hstart
      by_cases hedges : ∀ c ∈ trail, isEdge c = true
      · rw [parse_congr (clean_append_of_edges hedges), hown] at hstart
        obtain rfl := Except.ok.inj hstart
        exact ⟨rfl, rfl⟩
      · have hinside : ∃ c ∈ trail, isEdge c = false := by simpa using hedges
        have hclean := clean_append hraw hinside
        rw [← List.append_nil (droppedEnd raw ++ _)] at hclean
        apply authority_of_extended hown hremote hclean _ nofun hstart
        intro c hc
        rcases List.mem_append.mp hc with hc | hc
        · exact isMargin_of_mem_droppedEnd hc
        · have hmem : c ∈ trail := (List.rdropWhile_prefix (p := isEdge) (l := trail)).subset
            (List.mem_filter.mp hc).1
          rw [isMargin, htrail c hmem, Bool.or_true]

end WorkloadIdentity.Url
