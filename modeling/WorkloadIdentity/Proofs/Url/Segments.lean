import Mathlib.Data.List.DropRight
import WorkloadIdentity.Proofs.Text.Parts
import WorkloadIdentity.Proofs.Url.Host

/-!
Paths to which segments are added. Reading a path enters one segment after the other, and a dot
segment stays or goes up. Plain segments are entered as they are written, so a path that is extended
by some ends with them, below the place that the path in front leads to. That place is the path
itself unless the path ends with empty segments or runs into the text that follows.
-/

namespace WorkloadIdentity.Url

variable {cs more : List Char} {found parts : List (List Char)}

/-! ### Entering segments -/

/-- What has been found of a path after one more segment that is not its last. -/
def enter (found : List (List Char)) (part : List Char) : List (List Char) :=
  if isDoubleDot part then found.dropLast
  else if isSingleDot part then found
  else found ++ [percentEncode isPathReserved part]

theorem resolve_cons {part : List Char} (h : parts ≠ []) :
    resolve found (part :: parts) = resolve (enter found part) parts := by
  cases parts with
  | nil => exact absurd rfl h
  | cons next parts =>
      rw [resolve, enter]
      · split
        · rfl
        · split
          · rfl
          · rfl
      · exact h

theorem resolve_append {later : List (List Char)} (h : later ≠ []) :
    resolve found (parts ++ later) = resolve (parts.foldl enter found) later := by
  induction parts generalizing found with
  | nil => rfl
  | cons part parts ih =>
      have hne : parts ++ later ≠ [] := by simp [h]
      rw [List.cons_append, resolve_cons hne, ih, List.foldl_cons]

/-- The segments without the empty ones at the end. -/
def standing (parts : List (List Char)) : List (List Char) := parts.rdropWhile List.isEmpty

theorem standing_concat_nil (parts : List (List Char)) :
    standing (parts ++ [[]]) = standing parts :=
  List.rdropWhile_concat_pos _ _ _ rfl

theorem standing_eq_self_iff : standing parts = parts ↔ ∀ front, parts ≠ front ++ [[]] := by
  constructor
  · rintro hself front rfl
    rw [standing_concat_nil] at hself
    have hlength := (List.rdropWhile_prefix (p := List.isEmpty) (l := front)).length_le
    rw [← standing, hself, List.length_append, List.length_singleton] at hlength
    omega
  · intro hend
    apply List.rdropWhile_eq_self_iff.mpr
    intro hne hempty
    apply hend parts.dropLast
    rw [← List.isEmpty_iff.mp hempty]
    exact (List.dropLast_append_getLast hne).symm

/-- A path differs from what is found on the way in an empty segment at its end at most. -/
theorem standing_resolve (parts found : List (List Char)) :
    standing (resolve found parts) = standing (parts.foldl enter found) := by
  rcases List.eq_nil_or_concat parts with rfl | ⟨front, last, rfl⟩
  · rfl
  · rw [List.concat_eq_append, resolve_append (List.cons_ne_nil _ _), List.foldl_append,
      List.foldl_cons, List.foldl_nil, resolve, enter]
    split
    · exact standing_concat_nil _
    · split
      · exact standing_concat_nil _
      · rfl

/-- A segment that stands for itself. -/
structure IsPlain (part : List Char) : Prop where
  noSlash : ∀ c ∈ part, isSlash true c = false
  noDoubleDot : isDoubleDot part = false
  noSingleDot : isSingleDot part = false
  unreserved : percentEncode isPathReserved part = part

theorem IsPlain.enter {part : List Char} (h : IsPlain part) :
    enter found part = found ++ [part] := by
  rw [Url.enter, h.noDoubleDot, h.noSingleDot, h.unreserved]
  rfl

theorem resolve_plain (h : ∀ part ∈ parts, IsPlain part) :
    resolve found parts = found ++ parts := by
  induction parts generalizing found with
  | nil => exact (List.append_nil found).symm
  | cons part parts ih =>
      have hpart := h part List.mem_cons_self
      cases parts with
      | nil => rw [resolve, hpart.noDoubleDot, hpart.noSingleDot, hpart.unreserved]; rfl
      | cons next parts =>
          rw [resolve_cons (List.cons_ne_nil _ _), hpart.enter,
            ih fun other hother => h other (List.mem_cons_of_mem _ hother), List.append_assoc,
            List.singleton_append]

/-! ### Dot segments -/

def dotSpellings : List (List Char) :=
  [".", "%2e", "..", ".%2e", "%2e.", "%2e%2e"].map String.toList

theorem not_dots (h : cs.map Char.toLower ∉ dotSpellings) :
    isDoubleDot cs = false ∧ isSingleDot cs = false := by
  simp only [dotSpellings, List.map_cons, List.map_nil, List.mem_cons, List.not_mem_nil, or_false,
    not_or] at h
  simp only [isDoubleDot, isSingleDot, Bool.or_eq_false_iff, beq_eq_false_iff_ne]
  tauto

/-- A dot segment is made of few characters. -/
theorem not_dots_of_mem {c : Char} (hc : c ∈ cs) (h : c.toLower ∉ ['.', '%', '2', 'e']) :
    isDoubleDot cs = false ∧ isSingleDot cs = false := by
  apply not_dots
  intro hmem
  have hall : ∀ spelling ∈ dotSpellings, spelling ⊆ ['.', '%', '2', 'e'] := by decide
  exact h (hall _ hmem (List.mem_map_of_mem hc))

/-- A dot segment begins with a dot, in one spelling or the other. -/
theorem not_dots_of_head (h : ∀ c ∈ cs.head?, c.toLower ≠ '.' ∧ c.toLower ≠ '%') :
    isDoubleDot cs = false ∧ isSingleDot cs = false := by
  apply not_dots
  intro hmem
  have hall : ∀ spelling ∈ dotSpellings,
      spelling.head? = some '.' ∨ spelling.head? = some '%' := by decide
  have hhead := hall _ hmem
  simp only [List.head?_map, Option.map_eq_some_iff] at hhead
  rcases hhead with ⟨c, hc, hdot⟩ | ⟨c, hc, hdot⟩
  · exact (h c hc).1 hdot
  · exact (h c hc).2 hdot

/-! ### Words -/

/-- What holds of every character of ASCII can be tried out. -/
theorem of_ascii {P : Char → Prop} (h : ∀ n < 128, P (Char.ofNat n)) {c : Char}
    (hc : c.toNat < 128) : P c := by
  have hn := h c.toNat hc
  rwa [Char.ofNat_toNat] at hn

/-- Letters, digits and the low line. -/
def isWordChar (c : Char) : Bool := c.isAlphanum || c == '_'

/-- A character that means nothing to the reader but itself. -/
structure IsInert (c : Char) : Prop where
  noSlash : isSlash true c = false
  unreserved : isPathReserved c = false
  inside : isEdge c = false
  lower : c.toLower ≠ '.' ∧ c.toLower ≠ '%'
  noQuery : c ≠ '?'
  noFragment : c ≠ '#'

theorem toNat_lt_of_isWordChar {c : Char} (h : isWordChar c = true) : c.toNat < 128 := by
  rcases Bool.or_eq_true_iff.mp h with halphanum | hline
  · rcases Bool.or_eq_true_iff.mp halphanum with halpha | hdigit
    · rcases Bool.or_eq_true_iff.mp halpha with hupper | hlower
      · have hupto : c.toNat ≤ 0x5A := (of_decide_eq_true hupper).2
        omega
      · have hupto : c.toNat ≤ 0x7A := of_decide_eq_true (Bool.and_eq_true_iff.mp hlower).2
        omega
    · have hupto : c.toNat ≤ 0x39 := of_decide_eq_true (Bool.and_eq_true_iff.mp hdigit).2
      omega
  · rw [eq_of_beq hline]
    decide

theorem isInert_of_isWordChar {c : Char} (h : isWordChar c = true) : IsInert c := by
  have hascii : isWordChar c = true → isSlash true c = false ∧ isPathReserved c = false ∧
      isEdge c = false ∧ (c.toLower ≠ '.' ∧ c.toLower ≠ '%') ∧ c ≠ '?' ∧ c ≠ '#' :=
    of_ascii (P := fun c => isWordChar c = true → isSlash true c = false ∧
      isPathReserved c = false ∧ isEdge c = false ∧ (c.toLower ≠ '.' ∧ c.toLower ≠ '%') ∧
      c ≠ '?' ∧ c ≠ '#') (by decide) (toNat_lt_of_isWordChar h)
  obtain ⟨hslash, hreserved, hedge, hlower, hquery, hfragment⟩ := hascii h
  exact ⟨hslash, hreserved, hedge, hlower, hquery, hfragment⟩

theorem percentEncode_of_unreserved {isReserved : Char → Bool}
    (h : ∀ c ∈ cs, isReserved c = false) : percentEncode isReserved cs = cs := by
  have hkept : ∀ c ∈ cs, (if isReserved c = true then
      (String.utf8EncodeChar c).flatMap escape else [c]) = [c] := by
    intro c hc
    rw [h c hc]
    rfl
  rw [percentEncode, List.flatMap_congr hkept, List.flatMap_singleton']

theorem isPlain_of_word (h : ∀ c ∈ cs, isWordChar c = true) : IsPlain cs := by
  have hdots := not_dots_of_head fun c hc =>
    (isInert_of_isWordChar (h c (List.mem_of_mem_head? hc))).lower
  refine ⟨fun c hc => (isInert_of_isWordChar (h c hc)).noSlash, hdots.1, hdots.2, ?_⟩
  exact percentEncode_of_unreserved fun c hc => (isInert_of_isWordChar (h c hc)).unreserved

/-! ### The text of a path -/

/-- The segments of the text of a path, which is empty or begins with a slash. -/
def pathParts : List Char → List (List Char)
  | [] => []
  | _ :: rest => Text.splitBy (isSlash true) rest

/-- What is found of a path before the text that a slash adds to it. -/
def below (path : List Char) : List (List Char) := (pathParts path).foldl enter []

/-- Segments put behind a path. -/
def segmentText (parts : List (List Char)) : List Char := parts.flatMap ('/' :: ·)

theorem parseSegments_of_slash (h : ∀ c ∈ cs.head?, isSlash true c = true) :
    standing (parseSegments true cs) = standing (below cs) := by
  cases cs with
  | nil => rfl
  | cons c rest =>
      have hc : isSlash true c = true := h c rfl
      simp only [parseSegments, hc, if_true]
      exact standing_resolve _ _

theorem parseSegments_append (h : ∀ c ∈ cs.head?, isSlash true c = true) :
    parseSegments true (cs ++ '/' :: more) =
      resolve (below cs) (Text.splitBy (isSlash true) more) := by
  cases cs with
  | nil => rfl
  | cons c rest =>
      have hc : isSlash true c = true := h c rfl
      simp only [parseSegments, List.cons_append, hc, if_true]
      rw [Text.splitBy_append_cons rfl, resolve_append (Text.splitBy_ne_nil _ _)]
      rfl

theorem splitBy_segmentText {part : List Char} (hpart : IsPlain part)
    (h : ∀ part ∈ parts, IsPlain part) :
    Text.splitBy (isSlash true) (part ++ segmentText parts) = part :: parts := by
  induction parts generalizing part with
  | nil => rw [segmentText, List.flatMap_nil, List.append_nil, Text.splitBy_of_none hpart.noSlash]
  | cons next parts ih =>
      rw [segmentText, List.flatMap_cons, List.cons_append, Text.splitBy_append_cons rfl,
        Text.splitBy_of_none hpart.noSlash, ← segmentText,
        ih (h next List.mem_cons_self) fun other hother => h other (List.mem_cons_of_mem _ hother)]
      rfl

/-- Plain segments are found below the path that they are put behind. -/
theorem parseSegments_segmentText (h : ∀ c ∈ cs.head?, isSlash true c = true) (hparts : parts ≠ [])
    (hplain : ∀ part ∈ parts, IsPlain part) :
    parseSegments true (cs ++ segmentText parts) = below cs ++ parts := by
  obtain ⟨part, rest, rfl⟩ := List.exists_cons_of_ne_nil hparts
  rw [segmentText, List.flatMap_cons, List.cons_append, parseSegments_append h, ← segmentText,
    splitBy_segmentText (hplain part List.mem_cons_self) fun other hother =>
      hplain other (List.mem_cons_of_mem _ hother),
    resolve_plain hplain]

/-! ### What runs into a path -/

private theorem percentEncode_ne_nil {isReserved : Char → Bool} (h : cs ≠ []) :
    percentEncode isReserved cs ≠ [] := by
  obtain ⟨c, rest, rfl⟩ := List.exists_cons_of_ne_nil h
  obtain ⟨b, tail, hc⟩ := List.exists_cons_of_ne_nil (String.utf8EncodeChar_ne_nil (c := c))
  rw [percentEncode, List.flatMap_cons]
  split
  · rw [hc]
    exact List.cons_ne_nil _ _
  · exact List.cons_ne_nil _ _

/-- Margins between a path and a slash make its last segment another one. -/
theorem below_append_ne {margin : List Char} (hcs : cs ≠ []) (hmore : margin ≠ [])
    (hmargin : ∀ c ∈ margin, isMargin c = true) : below (cs ++ margin) ≠ standing (below cs) := by
  intro hsame
  obtain ⟨slash, rest, rfl⟩ := List.exists_cons_of_ne_nil hcs
  have hnone : ∀ c ∈ margin, isSlash true c = false := by
    intro c hc
    exact isSlash_of_not_ends (endsAuthority_of_isMargin (hmargin c hc))
  obtain ⟨front, last, hparts, hlonger⟩ := Text.splitBy_append_of_none rest hnone
  obtain ⟨c, hc⟩ := List.exists_mem_of_ne_nil margin hmore
  have hdots : isDoubleDot (last ++ margin) = false ∧ isSingleDot (last ++ margin) = false := by
    apply not_dots_of_mem (List.mem_append_right _ hc)
    rw [toLower_of_isMargin (hmargin c hc)]
    intro hmem
    have hall : ['.', '%', '2', 'e'].all (!isMargin ·) = true := by decide
    have hnone := List.all_eq_true.mp hall c hmem
    rw [hmargin c hc] at hnone
    cases hnone
  have hafter : below (slash :: rest ++ margin) =
      front.foldl enter [] ++ [percentEncode isPathReserved (last ++ margin)] := by
    rw [below, List.cons_append, pathParts, hlonger, List.foldl_append, List.foldl_cons,
      List.foldl_nil, enter, hdots.1, hdots.2]
    rfl
  have hbefore : below (slash :: rest) = enter (front.foldl enter []) last := by
    rw [below, pathParts, hparts, List.foldl_append, List.foldl_cons, List.foldl_nil]
  have hprefix : standing (below (slash :: rest)) <+: below (slash :: rest) :=
    List.rdropWhile_prefix _ _
  rw [← hsame, hafter, hbefore] at hprefix
  have hlength := hprefix.length_le
  rw [List.length_append, List.length_singleton] at hlength
  unfold enter at hprefix hlength
  split at hprefix
  · next hdouble =>
      rw [if_pos hdouble, List.length_dropLast] at hlength
      omega
  · next hdouble =>
      rw [if_neg hdouble] at hlength
      split at hprefix
      · next hsingle =>
          rw [if_pos hsingle] at hlength
          omega
      · have hequal := hprefix.eq_of_length (by simp)
        have hlast : percentEncode isPathReserved last ++ percentEncode isPathReserved margin =
            percentEncode isPathReserved last :=
          calc percentEncode isPathReserved last ++ percentEncode isPathReserved margin
            _ = percentEncode isPathReserved (last ++ margin) := List.flatMap_append.symm
            _ = percentEncode isPathReserved last :=
                List.singleton_inj.mp (List.append_cancel_left hequal)
        exact percentEncode_ne_nil hmore (List.append_right_eq_self.mp hlast)

end WorkloadIdentity.Url
