import WorkloadIdentity.Proofs.Url.Extension
import WorkloadIdentity.Proofs.Url.Segments

/-!
Which addresses can be extended by text. Segments that are put behind an address become the end of
its path only if nothing in it begins a query or a fragment, nothing at its end is dropped from it
alone but stands in front of a slash, and its path does not go on with an empty segment.
-/

namespace WorkloadIdentity.Url

variable {raw text behind cs scheme : List Char} {own url : Url} {found : Authority}
  {parts : List (List Char)}

/-- The segments of a path without the empty ones at its end. -/
def Path.standing : Path → List (List Char)
  | .segments parts => Url.standing parts
  | .plain _ => []

/-- An address whose path segments put behind its text go on. -/
structure Extensible (base : List Char) : Prop where
  noQuery : '?' ∉ base
  noFragment : '#' ∉ base
  noDropped : droppedEnd base = []
  noEmptyEnd : ∀ url front, parse (base ++ ['/']) = .ok url →
    url.path ≠ .segments (front ++ [[], []])

theorem parsePath_special (cs : List Char) :
    parsePath true cs = .segments (parseSegments true cs) := by
  rw [parsePath, Bool.not_true, Bool.and_false, if_neg Bool.false_ne_true]

/-! ### Queries and fragments -/

theorem assemble_of_whole {authority : Option Authority} {path : List Char → Path}
    (hquery : '?' ∉ cs) (hfragment : '#' ∉ cs) :
    assemble scheme authority path cs =
      { scheme, authority, path := path cs, query := none, fragment := none } := by
  have hmark {mark : Char} (h : mark ∉ cs) : ∀ c ∈ cs, (c != mark) = true := by
    intro c hc
    rw [bne_iff_ne]
    rintro rfl
    exact h hc
  have hrest {mark : Char} (h : mark ∉ cs) : cs.dropWhile (· != mark) = [] :=
    List.dropWhile_eq_nil_iff.mpr (hmark h)
  simp only [assemble, cutQuery, takeWhile_of_all (hmark hfragment), hrest hfragment,
    takeWhile_of_all (hmark hquery), hrest hquery, Option.map_none]

theorem not_mem_of_assemble {authority : Option Authority} {path : List Char → Path}
    (hquery : (assemble scheme authority path cs).query = none)
    (hfragment : (assemble scheme authority path cs).fragment = none) : '?' ∉ cs ∧ '#' ∉ cs := by
  have hmark {mark : Char} {l : List Char} (h : l.dropWhile (· != mark) = []) : mark ∉ l := by
    intro hmem
    have hall := List.dropWhile_eq_nil_iff.mp h mark hmem
    simp at hall
  simp only [assemble, cutQuery, Option.map_eq_none_iff] at hquery hfragment
  split at hfragment
  · cases hfragment
  · next hrest =>
      have hnone := hmark hrest
      have hall : cs.takeWhile (· != '#') = cs := by
        apply takeWhile_of_all
        intro c hc
        rw [bne_iff_ne]
        rintro rfl
        exact hnone hc
      rw [hall] at hquery
      split at hquery
      · cases hquery
      · next hrest => exact ⟨hmark hrest, hnone⟩

theorem cutScheme?_mem {c : Char} {rest : List Char} (h : cutScheme? cs = some (scheme, rest))
    (hscheme : isSchemeChar c = false) (hcolon : c ≠ ':') : c ∈ rest ↔ c ∈ cs := by
  simp only [cutScheme?] at h
  split at h
  · next hrest =>
      split at h
      · cases h
        conv_rhs => rw [← List.takeWhile_append_dropWhile (p := isSchemeChar) (l := cs), hrest]
        rw [List.mem_append, List.mem_cons]
        constructor
        · intro hc
          exact Or.inr (Or.inr hc)
        · rintro (hc | hc | hc)
          · rw [List.mem_takeWhile_imp hc] at hscheme
            cases hscheme
          · exact absurd hc hcolon
          · exact hc
      · cases h
  · cases h

namespace Reads

/-- A question mark or a number sign of an address stands behind its authority. -/
theorem mem_behind {c : Char} (h : Reads raw own text found behind) (hc : c = '?' ∨ c = '#') :
    c ∈ behind ↔ c ∈ raw := by
  obtain ⟨hedge, hscheme, hcolon, hslash, hends⟩ : isEdge c = false ∧ isSchemeChar c = false ∧
      c ≠ ':' ∧ isSlash true c = false ∧ endsAuthority true c = true := by
    rcases hc with rfl | rfl
    · decide
    · decide
  obtain ⟨slashes, hslashes, hcut⟩ := h.cut.begins
  have hclean : c ∈ clean raw ↔ c ∈ raw := mem_clean_iff hedge
  rw [← hclean, ← cutScheme?_mem hcut hscheme hcolon, List.mem_append, List.mem_append]
  constructor
  · intro hmem
    exact Or.inr (Or.inr hmem)
  · rintro (hmem | hmem | hmem)
    · rw [hslashes c hmem] at hslash
      cases hslash
    · rw [h.cut.inside c hmem] at hends
      cases hends
    · exact hmem

/-- What stands behind the authority is a path if it is no query and no fragment. -/
theorem slash_of_not_mem (h : Reads raw own text found behind) (hquery : '?' ∉ behind)
    (hfragment : '#' ∉ behind) : ∀ c ∈ behind.head?, isSlash true c = true := by
  intro c hc
  have hmem : c ∈ behind := List.mem_of_mem_head? hc
  have hends := h.cut.ends c hc
  simp only [endsAuthority, Bool.or_eq_true, beq_iff_eq] at hends
  rcases hends with (hslash | rfl) | rfl
  · exact hslash
  · exact absurd hmem hquery
  · exact absurd hmem hfragment

theorem parse_append_slash (rest : List Char) (h : Reads raw own text found behind)
    (hraw : ∃ c ∈ raw, isEdge c = false) (hroom : behind ≠ [] ∨ droppedEnd raw = []) :
    parse (raw ++ '/' :: rest) = .ok (assemble own.scheme (some found) (parsePath true)
      (behind ++ (droppedEnd raw ++ behindSlash rest))) :=
  h.parse_extended (clean_append_slash hraw) (head_behindSlash rest) hroom

theorem standing_path (h : Reads raw own text found behind) (hquery : '?' ∉ behind)
    (hfragment : '#' ∉ behind) : own.path.standing = Url.standing (below behind) := by
  rw [h.assembled, assemble_of_whole hquery hfragment, parsePath_special]
  exact parseSegments_of_slash (h.slash_of_not_mem hquery hfragment)

end Reads

/-! ### Segments behind an address -/

/-- Text in which nothing is dropped. -/
theorem behindSlash_of_inside {rest : List Char} (h : ∀ c ∈ rest, isEdge c = false) :
    behindSlash rest = '/' :: rest := by
  have hall : ∀ c ∈ '/' :: rest, isEdge c = false := by
    intro c hc
    rcases List.mem_cons.mp hc with rfl | hc
    · decide
    · exact h c hc
  have hend : ('/' :: rest).rdropWhile isEdge = '/' :: rest := by
    apply List.rdropWhile_eq_self_iff.mpr
    intro hne hedge
    rw [hall _ (List.getLast_mem hne)] at hedge
    cases hedge
  rw [behindSlash, hend, List.filter_eq_self]
  intro c hc
  cases htab : isTabOrBreak c with
  | false => rfl
  | true =>
      have hedge := hall c hc
      rw [isEdge_of_isTabOrBreak htab] at hedge
      cases hedge

private theorem inert_of_segmentText {c : Char}
    (hword : ∀ part ∈ parts, ∀ c ∈ part, isWordChar c = true) (hc : c ∈ segmentText parts) :
    isEdge c = false ∧ c ≠ '?' ∧ c ≠ '#' := by
  obtain ⟨part, hpart, hc⟩ := List.mem_flatMap.mp hc
  rcases List.mem_cons.mp hc with rfl | hc
  · decide
  · have hinert := isInert_of_isWordChar (hword part hpart c hc)
    exact ⟨hinert.inside, hinert.noQuery, hinert.noFragment⟩

private theorem path_of_slash (h : Reads raw own text found behind)
    (hraw : ∃ c ∈ raw, isEdge c = false) (hquery : '?' ∉ behind) (hfragment : '#' ∉ behind)
    (hdropped : droppedEnd raw = []) :
    ∃ url, parse (raw ++ ['/']) = .ok url ∧ url.path = .segments (below behind ++ [[]]) := by
  refine ⟨_, h.parse_append_slash [] hraw (Or.inr hdropped), ?_⟩
  have hquery' : '?' ∉ behind ++ ['/'] := by simp [hquery]
  have hfragment' : '#' ∉ behind ++ ['/'] := by simp [hfragment]
  rw [hdropped, List.nil_append, behindSlash_of_inside (List.forall_mem_nil _),
    assemble_of_whole hquery' hfragment', parsePath_special,
    parseSegments_append (h.slash_of_not_mem hquery hfragment)]
  rfl

/-- What is read of segments behind an address. -/
private theorem segmentText_behind (hparts : parts ≠ [])
    (hword : ∀ part ∈ parts, ∀ c ∈ part, isWordChar c = true) :
    ∃ rest, segmentText parts = '/' :: rest ∧ behindSlash rest = segmentText parts := by
  obtain ⟨part, others, rfl⟩ := List.exists_cons_of_ne_nil hparts
  refine ⟨part ++ segmentText others, rfl, ?_⟩
  rw [behindSlash_of_inside]
  · rfl
  · intro c hc
    exact (inert_of_segmentText hword (List.mem_cons_of_mem '/' hc)).1

theorem extensible_of_path (h : Reads raw own text found behind)
    (hraw : ∃ c ∈ raw, isEdge c = false) (hparts : parts ≠ [])
    (hword : ∀ part ∈ parts, ∀ c ∈ part, isWordChar c = true)
    (hurl : parse (raw ++ segmentText parts) = .ok url)
    (hpath : url.path = .segments (own.path.standing ++ parts)) (hnoQuery : url.query = none)
    (hnoFragment : url.fragment = none) : Extensible raw := by
  obtain ⟨rest, hslash, hrest⟩ := segmentText_behind hparts hword
  have hroom : behind ≠ [] ∨ droppedEnd raw = [] := by
    by_contra hnone
    rw [not_or, not_not] at hnone
    obtain ⟨rfl, hmore⟩ := hnone
    rw [hslash] at hurl
    exact h.parse_extended_ne_ok (clean_append_slash hraw)
      (fun c hc => isMargin_of_mem_droppedEnd hc) (head_behindSlash rest) hmore hurl
  rw [hslash, h.parse_append_slash rest hraw hroom, hrest] at hurl
  obtain rfl := Except.ok.inj hurl
  obtain ⟨hquery, hfragment⟩ := not_mem_of_assemble hnoQuery hnoFragment
  rw [assemble_of_whole hquery hfragment, parsePath_special, ← List.append_assoc] at hpath
  have hquery' : '?' ∉ behind := fun hmem => hquery (List.mem_append_left _ hmem)
  have hfragment' : '#' ∉ behind := fun hmem => hfragment (List.mem_append_left _ hmem)
  have hhead : ∀ c ∈ (behind ++ droppedEnd raw).head?, isSlash true c = true := by
    cases behind with
    | nil =>
        rw [hroom.resolve_left (not_not_intro rfl)]
        exact nofun
    | cons c behind => exact h.slash_of_not_mem hquery' hfragment'
  rw [parseSegments_segmentText hhead hparts fun part hpart => isPlain_of_word (hword part hpart),
    h.standing_path hquery' hfragment'] at hpath
  have hsame : below (behind ++ droppedEnd raw) = Url.standing (below behind) :=
    List.append_cancel_right (Path.segments.inj hpath)
  have hdropped : droppedEnd raw = [] := by
    by_contra hmore
    have hbehind : behind ≠ [] := hroom.resolve_right hmore
    exact below_append_ne hbehind hmore (fun c hc => isMargin_of_mem_droppedEnd hc) hsame
  rw [hdropped, List.append_nil] at hsame
  refine ⟨?_, ?_, hdropped, ?_⟩
  · exact fun hmem => hquery' ((h.mem_behind (Or.inl rfl)).mpr hmem)
  · exact fun hmem => hfragment' ((h.mem_behind (Or.inr rfl)).mpr hmem)
  · intro url front hurl hend
    obtain ⟨url', hurl', hend'⟩ := path_of_slash h hraw hquery' hfragment' hdropped
    rw [hurl] at hurl'
    obtain rfl := Except.ok.inj hurl'
    rw [hend] at hend'
    have hfront : front ++ [[]] ++ [[]] = below behind ++ [[]] := by
      rw [List.append_assoc]
      exact Path.segments.inj hend'
    exact standing_eq_self_iff.mp hsame.symm front (List.append_cancel_right hfront).symm

theorem path_of_extensible (h : Reads raw own text found behind)
    (hraw : ∃ c ∈ raw, isEdge c = false) (hparts : parts ≠ [])
    (hword : ∀ part ∈ parts, ∀ c ∈ part, isWordChar c = true) (hextensible : Extensible raw) :
    ∃ url, parse (raw ++ segmentText parts) = .ok url ∧
      url.path = .segments (own.path.standing ++ parts) ∧ url.query = none ∧
      url.fragment = none := by
  obtain ⟨rest, hslash, hrest⟩ := segmentText_behind hparts hword
  have hquery : '?' ∉ behind := fun hmem =>
    hextensible.noQuery ((h.mem_behind (Or.inl rfl)).mp hmem)
  have hfragment : '#' ∉ behind := fun hmem =>
    hextensible.noFragment ((h.mem_behind (Or.inr rfl)).mp hmem)
  have hstanding : Url.standing (below behind) = below behind := by
    apply standing_eq_self_iff.mpr
    intro front hfront
    obtain ⟨url, hurl, hpath⟩ := path_of_slash h hraw hquery hfragment hextensible.noDropped
    apply hextensible.noEmptyEnd url front hurl
    rw [hpath, hfront, List.append_assoc]
    rfl
  have hquery' : '?' ∉ behind ++ segmentText parts := by
    intro hmem
    rcases List.mem_append.mp hmem with hmem | hmem
    · exact hquery hmem
    · exact (inert_of_segmentText hword hmem).2.1 rfl
  have hfragment' : '#' ∉ behind ++ segmentText parts := by
    intro hmem
    rcases List.mem_append.mp hmem with hmem | hmem
    · exact hfragment hmem
    · exact (inert_of_segmentText hword hmem).2.2 rfl
  have hparse := h.parse_append_slash rest hraw (Or.inr hextensible.noDropped)
  rw [← hslash, hrest, hextensible.noDropped, List.nil_append, assemble_of_whole hquery' hfragment',
    parsePath_special, parseSegments_segmentText (h.slash_of_not_mem hquery hfragment) hparts
      fun part hpart => isPlain_of_word (hword part hpart)] at hparse
  refine ⟨_, hparse, ?_, rfl, rfl⟩
  rw [h.standing_path hquery hfragment, hstanding]

end WorkloadIdentity.Url
