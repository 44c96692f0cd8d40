import WorkloadIdentity.Proofs.Fallible
import WorkloadIdentity.Proofs.Url.Extensible
import WorkloadIdentity.Proofs.Url.Form

/-!
The path of an address. Every address is laid out as slashes, the text of an authority, the text of
its path, and behind that a query or a fragment if anything. The segments that are read from the
path come from the parts between its slashes, with reserved characters written out, and so none has
a slash or a blank in it. Nothing is ever decoded: a segment without a percent sign stands in the
address as it is.
-/

namespace WorkloadIdentity.Url

variable {raw cs scheme rest tail part word : List Char} {url : Url} {c : Char}
variable {found parts : List (List Char)}

/-! ### Writing out -/

theorem percent_mem_percentEncode {isReserved : Char → Bool} (hc : c ∈ cs)
    (h : isReserved c = true) : '%' ∈ percentEncode isReserved cs := by
  obtain ⟨b, bytes, hbytes⟩ := List.exists_cons_of_ne_nil (String.utf8EncodeChar_ne_nil (c := c))
  refine List.mem_flatMap.mpr ⟨c, hc, ?_⟩
  rw [if_pos h, hbytes]
  exact List.mem_cons_self

/-- Only a text itself is encoded as one without percent signs. -/
theorem eq_of_percentEncode {isReserved : Char → Bool} (hword : '%' ∉ word)
    (h : percentEncode isReserved cs = word) : cs = word := by
  rw [← h]
  refine (percentEncode_of_unreserved fun c hc => ?_).symm
  rw [Bool.eq_false_iff]
  intro hreserved
  exact hword (h ▸ percent_mem_percentEncode hc hreserved)

/-- No slash and no blank is in the segment. -/
def IsSegment (part : List Char) : Prop := ∀ c ∈ part, c ≠ '/' ∧ Text.isBlank c = false

theorem isSegment_nil : IsSegment [] := nofun

private theorem isBlank_of_unreserved (h : isPathReserved c = false) : Text.isBlank c = false := by
  have hascii : c.toNat < 128 := by
    have hcontrol : isControl c = false := by
      simp only [isPathReserved, isFragmentReserved, Bool.or_eq_false_iff] at h
      exact h.1.1
    simp only [isControl, Bool.or_eq_false_iff, decide_eq_false_iff_not] at hcontrol
    omega
  exact of_ascii (P := fun c => isPathReserved c = false → Text.isBlank c = false)
    (by decide +kernel) hascii h

private theorem isSegment_escape (b : UInt8) : IsSegment (escape b) := by
  have hall : (escape b).all (fun c => c != '/' && !Text.isBlank c) = true :=
    of_bytes (P := fun b => (escape b).all (fun c => c != '/' && !Text.isBlank c) = true)
      (by decide +kernel) b
  intro c hc
  simpa using List.all_eq_true.mp hall c hc

theorem isSegment_percentEncode (h : '/' ∉ cs) : IsSegment (percentEncode isPathReserved cs) := by
  intro c hc
  obtain ⟨d, hd, hwritten⟩ := List.mem_flatMap.mp hc
  split at hwritten
  · obtain ⟨b, _, hescape⟩ := List.mem_flatMap.mp hwritten
    exact isSegment_escape b c hescape
  · next hunreserved =>
      obtain rfl := List.mem_singleton.mp hwritten
      rw [Bool.not_eq_true] at hunreserved
      exact ⟨ne_of_mem_of_not_mem hd h, isBlank_of_unreserved hunreserved⟩

/-! ### Segments and what they are read from -/

theorem mem_enter {next : List Char} (h : part ∈ enter found next) :
    part ∈ found ∨ part = percentEncode isPathReserved next := by
  unfold enter at h
  split at h
  · exact Or.inl (List.dropLast_subset _ h)
  · split at h
    · exact Or.inl h
    · simpa using h

/-- The last segment is entered as the others are, but a dot segment leaves an empty one. -/
theorem mem_resolve_singleton {last : List Char} (h : part ∈ resolve found [last]) :
    part ∈ enter found last ∨ part = [] := by
  rw [resolve] at h
  rw [enter]
  by_cases hdouble : isDoubleDot last = true
  · rw [if_pos hdouble] at h ⊢
    simpa using h
  · rw [if_neg hdouble] at h ⊢
    by_cases hsingle : isSingleDot last = true
    · rw [if_pos hsingle] at h ⊢
      simpa using h
    · rw [if_neg hsingle] at h ⊢
      exact Or.inl h

/-- Reading a path adds nothing but what stands in it and an empty segment at its end. -/
theorem mem_resolve (h : part ∈ resolve found parts) :
    part ∈ found ∨ part = [] ∨ ∃ next ∈ parts, part = percentEncode isPathReserved next := by
  induction parts generalizing found with
  | nil => exact Or.inl h
  | cons next parts ih =>
      have hentered (h : part ∈ enter found next) : part ∈ found ∨ part = [] ∨
          ∃ other ∈ next :: parts, part = percentEncode isPathReserved other := by
        rcases mem_enter h with hfound | hnext
        · exact Or.inl hfound
        · exact Or.inr (Or.inr ⟨next, List.mem_cons_self, hnext⟩)
      by_cases hend : parts = []
      · subst hend
        rcases mem_resolve_singleton h with hnext | hempty
        · exact hentered hnext
        · exact Or.inr (Or.inl hempty)
      · rw [resolve_cons hend] at h
        rcases ih h with hnext | hempty | ⟨later, hlater, hpart⟩
        · exact hentered hnext
        · exact Or.inr (Or.inl hempty)
        · exact Or.inr (Or.inr ⟨later, List.mem_cons_of_mem _ hlater, hpart⟩)

theorem mem_parseSegments {special : Bool} (h : part ∈ parseSegments special cs) :
    part = [] ∨
      ∃ next ∈ Text.splitBy (isSlash special) cs, part = percentEncode isPathReserved next := by
  have hinner {inner : List Char} (h : part ∈ resolve [] (Text.splitBy (isSlash special) inner)) :
      part = [] ∨
        ∃ next ∈ Text.splitBy (isSlash special) inner, part = percentEncode isPathReserved next :=
    (mem_resolve h).resolve_left List.not_mem_nil
  cases cs with
  | nil => exact hinner h
  | cons c cs =>
      simp only [parseSegments] at h
      split at h
      · next hslash =>
          rw [Text.splitBy, if_pos hslash]
          rcases hinner h with hempty | ⟨next, hnext, hpart⟩
          · exact Or.inl hempty
          · exact Or.inr ⟨next, List.mem_cons_of_mem _ hnext, hpart⟩
      · exact hinner h

theorem isSegment_of_mem_parseSegments {special : Bool} (h : part ∈ parseSegments special cs) :
    IsSegment part := by
  rcases mem_parseSegments h with rfl | ⟨next, hnext, rfl⟩
  · exact isSegment_nil
  · apply isSegment_percentEncode
    intro hmem
    exact absurd (Text.isSep_of_mem_splitBy hnext hmem) (by simp [isSlash])

/-! ### Where the authority ends -/

theorem parsePort_suffix {port : Option Nat} (hcolon : ∀ c ∈ cs.head?, c = ':')
    (h : parsePort scheme cs = .ok (port, tail)) :
    tail <:+ cs ∧ ∀ c ∈ tail.head?, c = '\\' := by
  cases cs with
  | nil =>
      obtain ⟨_, rfl⟩ := Prod.mk.inj (Except.ok.inj h)
      exact ⟨List.suffix_refl _, nofun⟩
  | cons c cs =>
      obtain rfl : c = ':' := hcolon c rfl
      simp only [parsePort] at h
      split at h
      · cases h
      · split at h
        · cases h
        · next hbehind =>
            cases h
            refine ⟨(List.dropWhile_suffix _).trans (List.suffix_cons _ _), ?_⟩
            intro c hc
            obtain ⟨behind, hdrop⟩ : ∃ behind, cs.dropWhile (fun c => '0' ≤ c && c ≤ '9') =
                c :: behind := List.head?_eq_some_iff.mp hc
            simpa [hdrop] using hbehind

/-- What the parts of an authority are read from. -/
theorem parts_of_parseAuthority {atEnd : Bool} {authority : Authority}
    (h : parseAuthority scheme atEnd cs = .ok (authority, tail)) :
    userOf cs = (authority.username, authority.secret) ∧
      (parseHost (cutHost false (hostText cs)).1 = .ok authority.host ∨
        parsePlainHost (cutHost false (hostText cs)).1 = .ok authority.host) ∧
      parsePort scheme (cutHost false (hostText cs)).2 = .ok (authority.port, tail) := by
  simp only [parseAuthority, ← hostText.eq_def, ← userOf.eq_def] at h
  split at h
  · cases h
  · split at h
    · cases h
    · split at h
      all_goals
        obtain ⟨host, hhost, h⟩ := exists_of_bind_ok h
        split at h
        · cases h
        · obtain ⟨⟨port, rest⟩, hport, h⟩ := exists_of_bind_ok h
          split at h
          · cases h
          · cases h
            first
              | exact ⟨rfl, Or.inl hhost, hport⟩
              | exact ⟨rfl, Or.inr hhost, hport⟩

/-- What an authority leaves for the path is the end of its text, from a backslash on. -/
theorem parseAuthority_suffix {atEnd : Bool} {authority : Authority}
    (h : parseAuthority scheme atEnd cs = .ok (authority, tail)) :
    tail <:+ cs ∧ ∀ c ∈ tail.head?, c = '\\' := by
  obtain ⟨-, -, hport⟩ := parts_of_parseAuthority h
  have hbehind : (cutHost false (hostText cs)).2 <:+ hostText cs ∧
      ∀ c ∈ (cutHost false (hostText cs)).2.head?, c = ':' := by
    by_cases hnil : (cutHost false (hostText cs)).2 = []
    · rw [hnil]
      exact ⟨List.nil_suffix, nofun⟩
    · obtain ⟨rest, hrest, hsuffix⟩ := cutHost_tail hnil
      rw [hrest]
      exact ⟨hsuffix, fun c hc => (Option.some.inj hc).symm⟩
  obtain ⟨hsuffix, hback⟩ := parsePort_suffix hbehind.2 hport
  exact ⟨hsuffix.trans (hbehind.1.trans (hostText_suffix cs)), hback⟩

/-! ### How an address is laid out -/

/-- How the text of an address behind its scheme is cut: into slashes, the text of the authority,
the text of the path, and what stands behind it. -/
structure Layout (cs : List Char) (url : Url) (authority path behind : List Char) : Prop where
  begins : ∃ slashes, (∀ c ∈ slashes, isSlash true c = true) ∧
    cs = slashes ++ (authority ++ (path ++ behind))
  inside : ∀ c ∈ authority, endsAuthority (isSpecial url.scheme) c = false
  unhosted : url.authority = none → authority = []
  hosted : url.authority ≠ none → ∀ c ∈ path.head?, isSlash true c = true
  noMark : ∀ c ∈ path, c ≠ '?' ∧ c ≠ '#'
  ends : ∀ c ∈ behind.head?, c = '?' ∨ c = '#'
  read : url.path = parsePath (isSpecial url.scheme) path ∨
    url.path = .plain (percentEncode isControl path)

theorem cutQuery_layout (cs : List Char) :
    ∃ behind, cs = (cutQuery cs).1 ++ behind ∧ (∀ c ∈ (cutQuery cs).1, c ≠ '?' ∧ c ≠ '#') ∧
      ∀ c ∈ behind.head?, c = '?' ∨ c = '#' := by
  let front := cs.takeWhile (· != '#')
  refine ⟨front.dropWhile (· != '?') ++ cs.dropWhile (· != '#'), ?_, ?_, ?_⟩
  · have hfront : front.takeWhile (· != '?') ++ front.dropWhile (· != '?') = front :=
      List.takeWhile_append_dropWhile
    calc cs
      _ = front ++ cs.dropWhile (· != '#') := List.takeWhile_append_dropWhile.symm
      _ = front.takeWhile (· != '?') ++
            (front.dropWhile (· != '?') ++ cs.dropWhile (· != '#')) := by
          rw [← List.append_assoc, hfront]
  · intro c hc
    have hquery := List.mem_takeWhile_imp hc
    have hfragment := List.mem_takeWhile_imp ((List.takeWhile_prefix _).subset hc)
    exact ⟨by simpa using hquery, by simpa using hfragment⟩
  · intro c hc
    cases hmark : front.dropWhile (· != '?') with
    | cons d later =>
        rw [hmark] at hc
        have hstop := List.head?_dropWhile_not (· != '?') front
        rw [hmark] at hstop
        obtain rfl : d = c := Option.some.inj hc
        exact Or.inl (by simpa using hstop)
    | nil =>
        rw [hmark, List.nil_append, Option.mem_def] at hc
        have hstop := List.head?_dropWhile_not (· != '#') cs
        rw [hc] at hstop
        exact Or.inr (by simpa using hstop)

theorem layout_of_assemble {authority : Option Authority} {path : List Char → Path}
    {slashes text : List Char} (hslashes : ∀ c ∈ slashes, isSlash true c = true)
    (hinside : ∀ c ∈ text, endsAuthority (isSpecial scheme) c = false)
    (hunhosted : authority = none → text = [])
    (hhosted : authority ≠ none → ∀ c ∈ cs.head?, endsAuthority true c = true)
    (hread : ∀ text, path text = parsePath (isSpecial scheme) text ∨
      path text = .plain (percentEncode isControl text)) :
    ∃ inner behind,
      Layout (slashes ++ (text ++ cs)) (assemble scheme authority path cs) text inner behind := by
  obtain ⟨behind, hcut, hmark, hends⟩ := cutQuery_layout cs
  refine ⟨(cutQuery cs).1, behind, ⟨slashes, hslashes, by rw [← hcut]⟩, hinside, hunhosted, ?_,
    hmark, hends, hread _⟩
  intro hsome c hc
  obtain ⟨later, hpath⟩ := List.head?_eq_some_iff.mp hc
  have hhead : endsAuthority true c = true := by
    apply hhosted hsome
    rw [hcut, hpath]
    rfl
  obtain ⟨hquery, hfragment⟩ := hmark c (List.mem_of_mem_head? hc)
  simpa [endsAuthority, hquery, hfragment] using hhead

theorem endsAuthority_of_mem_takeWhile {special : Bool}
    (h : c ∈ cs.takeWhile fun c => !endsAuthority special c) : endsAuthority special c = false := by
  simpa using List.mem_takeWhile_imp h

theorem endsAuthority_of_head_dropWhile {special : Bool}
    (h : c ∈ (cs.dropWhile fun c => !endsAuthority special c).head?) :
    endsAuthority true c = true := by
  have hstop := List.head?_dropWhile_not (fun c => !endsAuthority special c) cs
  rw [Option.mem_def.mp h] at hstop
  have hends : endsAuthority special c = true := by simpa using hstop
  simp only [endsAuthority, isSlash, Bool.or_eq_true] at hends ⊢
  rcases hends with ((hslash | hback) | hquery) | hfragment
  · exact Or.inl (Or.inl (Or.inl hslash))
  · exact Or.inl (Or.inl (Or.inr (Bool.and_eq_true_iff.mp hback).2))
  · exact Or.inl (Or.inr hquery)
  · exact Or.inr hfragment

theorem layout_of_parseBehindSlashes (slashes : List Char)
    (hslashes : ∀ c ∈ slashes, isSlash true c = true) (h : parseBehindSlashes scheme cs = .ok url) :
    ∃ authority path behind, Layout (slashes ++ cs) url authority path behind := by
  obtain ⟨⟨found, tail⟩, hfound, h⟩ := exists_of_bind_ok h
  obtain rfl := Except.ok.inj h
  obtain ⟨⟨authority, htext⟩, hback⟩ := parseAuthority_suffix hfound
  have hwhole : slashes ++ cs = slashes ++ (authority ++
      (tail ++ cs.dropWhile fun c => !endsAuthority (isSpecial scheme) c)) := by
    rw [← List.append_assoc authority, htext, List.takeWhile_append_dropWhile]
  rw [hwhole]
  refine ⟨authority, layout_of_assemble hslashes ?_ nofun (fun _ => ?_) fun _ => Or.inl rfl⟩
  · intro c hc
    apply endsAuthority_of_mem_takeWhile
    rw [← htext]
    exact List.mem_append_left _ hc
  · intro c hc
    cases tail with
    | nil => exact endsAuthority_of_head_dropWhile hc
    | cons d tail =>
        obtain rfl : d = c := Option.some.inj hc
        rw [hback d rfl]
        rfl

private theorem layout_of_unhosted (slashes cs : List Char) {path : List Char → Path}
    (hslashes : ∀ c ∈ slashes, isSlash true c = true)
    (hread : ∀ text, path text = parsePath (isSpecial scheme) text ∨
      path text = .plain (percentEncode isControl text)) :
    ∃ authority inner behind,
      Layout (slashes ++ cs) (assemble scheme none path cs) authority inner behind := by
  have hinside : ∀ c ∈ ([] : List Char), endsAuthority (isSpecial scheme) c = false := nofun
  exact ⟨[], layout_of_assemble hslashes hinside (fun _ => rfl) (absurd rfl) hread⟩

theorem layout_of_parseFile (hspecial : isSpecial scheme = true)
    (h : parseFile scheme cs = .ok url) :
    ∃ authority path behind, Layout cs url authority path behind := by
  have hnone : ∀ c ∈ ([] : List Char), isSlash true c = true := nofun
  have hread (text : List Char) :
      Path.segments (parseSegments true text) = parsePath (isSpecial scheme) text ∨
        Path.segments (parseSegments true text) = .plain (percentEncode isControl text) := by
    rw [hspecial, parsePath_special]
    exact Or.inl rfl
  unfold parseFile at h
  dsimp only at h
  split at h
  · next a b rest =>
      split at h
      · next hab =>
          have hslashes : ∀ c ∈ [a, b], isSlash true c = true := by simpa using hab
          have hrest : rest.takeWhile (fun c => !endsAuthority true c) ++
              rest.dropWhile (fun c => !endsAuthority true c) = rest :=
            List.takeWhile_append_dropWhile
          split at h
          · cases h
            exact layout_of_unhosted [a, b] rest hslashes hread
          · split at h
            · next hempty =>
                rw [List.isEmpty_iff.mp hempty, List.nil_append] at hrest
                rw [hrest] at h
                cases h
                exact layout_of_unhosted [a, b] rest hslashes hread
            · obtain ⟨host, -, h⟩ := exists_of_bind_ok h
              obtain rfl := Except.ok.inj h
              have hwhole : a :: b :: rest = [a, b] ++
                  (rest.takeWhile (fun c => !endsAuthority true c) ++
                    rest.dropWhile (fun c => !endsAuthority true c)) := by
                rw [hrest]
                rfl
              rw [hwhole]
              refine ⟨_, layout_of_assemble hslashes ?_ nofun (fun _ => ?_) fun _ => ?_⟩
              · intro c hc
                rw [hspecial]
                exact endsAuthority_of_mem_takeWhile hc
              · intro c hc
                exact endsAuthority_of_head_dropWhile hc
              · rw [hspecial]
                exact Or.inl rfl
      · cases h
        exact layout_of_unhosted [] (a :: b :: rest) hnone hread
  · cases h
    exact layout_of_unhosted [] cs hnone hread

/-- Every address is laid out so. -/
theorem layout_of_parse (h : parse raw = .ok url) :
    ∃ rest authority path behind,
      cutScheme? (clean raw) = some (url.scheme, rest) ∧ Layout rest url authority path behind := by
  obtain ⟨rest, hscheme⟩ := parse_scheme h
  have hlayout : ∃ authority path behind, Layout rest url authority path behind := by
    have hnone : ∀ c ∈ ([] : List Char), isSlash true c = true := nofun
    simp only [parse, hscheme] at h
    generalize url.scheme = scheme at h
    split at h
    · next hfile =>
        have hspecial : isSpecial scheme = true := by
          rw [eq_of_beq hfile]
          decide
        exact layout_of_parseFile hspecial h
    · split at h
      · rw [← List.takeWhile_append_dropWhile (p := isSlash true) (l := rest)]
        exact layout_of_parseBehindSlashes _ (fun c hc => List.mem_takeWhile_imp hc) h
      · next hspecial =>
          rw [Bool.not_eq_true] at hspecial
          split at h
          · exact layout_of_parseBehindSlashes ['/', '/'] (by simp [isSlash]) h
          · cases h
            refine layout_of_unhosted [] _ hnone fun text => Or.inl ?_
            rw [hspecial]
          · cases h
            exact layout_of_unhosted [] rest hnone fun text => Or.inr rfl
  obtain ⟨authority, path, behind, hlayout⟩ := hlayout
  exact ⟨rest, authority, path, behind, hscheme, hlayout⟩

/-! ### What a segment says about the address -/

theorem pathSegments?_of_segments (h : url.path = .segments parts) :
    (url.pathSegments?).getD [] = parts := by
  cases parts with
  | nil => simp only [pathSegments?, h, Option.getD_none]
  | cons part parts => simp only [pathSegments?, h, Option.getD_some]

theorem Layout.mem_parseSegments {authority path behind : List Char}
    (h : Layout cs url authority path behind) (hpart : part ∈ (url.pathSegments?).getD []) :
    part ∈ parseSegments (isSpecial url.scheme) path := by
  rcases h.read with hread | hread
  · unfold parsePath at hread
    split at hread
    · rw [pathSegments?_of_segments hread] at hpart
      cases hpart
    · rwa [pathSegments?_of_segments hread] at hpart
  · simp only [pathSegments?, hread, Option.getD_none, List.not_mem_nil] at hpart

theorem isSegment_of_mem_pathSegments? (h : parse raw = .ok url)
    (hpart : part ∈ (url.pathSegments?).getD []) : IsSegment part := by
  obtain ⟨rest, authority, path, behind, -, hlayout⟩ := layout_of_parse h
  exact isSegment_of_mem_parseSegments (hlayout.mem_parseSegments hpart)

/-- A segment without a percent sign is written in the path as it is, between its slashes. -/
theorem Layout.mem_splitBy {authority path behind : List Char}
    (h : Layout cs url authority path behind) (hpart : part ∈ (url.pathSegments?).getD [])
    (hsome : part ≠ []) (hpercent : '%' ∉ part) :
    part ∈ Text.splitBy (isSlash (isSpecial url.scheme)) path := by
  rcases Url.mem_parseSegments (h.mem_parseSegments hpart) with hempty | ⟨next, hnext, hwritten⟩
  · exact absurd hempty hsome
  · rwa [← eq_of_percentEncode hpercent hwritten.symm]

end WorkloadIdentity.Url
