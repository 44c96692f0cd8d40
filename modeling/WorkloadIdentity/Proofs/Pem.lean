import Mathlib.Data.List.DropRight
import WorkloadIdentity.Certificate.Chain
import WorkloadIdentity.Proofs.Fallible
import WorkloadIdentity.Proofs.Text.Mending

/-!
The sections of a mended text. Mending keeps lines, marks, labels that are known and whatever is
base64, but two labels that are not known may become the same. Then a line that did not end a
section ends it in the mended text. Such a line has dashes in it and stays in the section that it
did not end, so no base64 comes of that section any more: it can only end under a label that is not
known, and nothing of it is read on either side. So a text that can be read has the same sections
when it is mended.
-/

namespace WorkloadIdentity

open Utf8

/-! ### Base64 -/

namespace Base64

variable {b : UInt8} {text : Bytes}

/-- A byte that has no place in base64. -/
structure IsForeign (b : UInt8) : Prop where
  noDigit : value? b = none
  noBlank : isBlank b = false
  noPadding : b ≠ padding

private theorem mapM_value?_of_mem (hb : value? b = none) (h : b ∈ text) :
    text.mapM value? = none := by
  rw [Option.eq_none_iff_forall_ne_some]
  intro values hvalues
  obtain ⟨digit, -, hdigit⟩ := exists_of_mem hvalues h
  rw [hb] at hdigit
  cases hdigit

theorem decode?_of_isForeign (hb : IsForeign b) (h : b ∈ text) : decode? text = none := by
  have hmarks : b ∈ text.filter (!isBlank ·) := by
    rw [List.mem_filter, hb.noBlank]
    exact ⟨h, rfl⟩
  rw [← List.takeWhile_append_dropWhile (p := (· != padding)) (l := text.filter (!isBlank ·)),
    List.mem_append] at hmarks
  dsimp only [decode?]
  rcases hmarks with hbody | hrest
  · rw [mapM_value?_of_mem hb.noDigit hbody]
    split
    · rfl
    · rfl
  · rw [if_neg]
    intro hpadding
    simp only [isPadding, Bool.or_eq_true, Bool.and_eq_true, List.isEmpty_iff, List.all_eq_true]
      at hpadding
    rcases hpadding with hnil | hall
    · rw [hnil] at hrest
      cases hrest
    · exact hb.noPadding (eq_of_beq (hall.1.1 b hrest))

theorem isForeign_dash : IsForeign Pem.dash := ⟨by decide, by decide, by decide⟩

theorem isForeign_of_wide (h : 0x80 ≤ b) : IsForeign b := by
  have habove : ∀ bound : UInt8, bound < 0x80 → ¬ b ≤ bound := fun bound hbound =>
    UInt8.not_le.mpr (UInt8.lt_of_lt_of_le hbound h)
  have hne : ∀ other : UInt8, other < 0x80 → b ≠ other := fun other hother heq =>
    habove other hother (heq ▸ UInt8.le_refl b)
  refine ⟨?_, ?_, hne _ (by decide)⟩
  · simp [value?, habove _ (by decide : (0x5A : UInt8) < 0x80),
      habove _ (by decide : (0x7A : UInt8) < 0x80), habove _ (by decide : (0x39 : UInt8) < 0x80),
      hne _ (by decide : (0x2B : UInt8) < 0x80), hne _ (by decide : (0x2F : UInt8) < 0x80)]
  · simp [isBlank, hne _ (by decide : (0x09 : UInt8) < 0x80),
      hne _ (by decide : (0x0A : UInt8) < 0x80), hne _ (by decide : (0x0D : UInt8) < 0x80),
      hne _ (by decide : (0x20 : UInt8) < 0x80)]

/-- Base64 is ASCII, so mending the lines of a section neither helps nor harms. -/
theorem decode?_mend (lines : List Bytes) :
    decode? (lines.map mend).reverse.flatten = decode? lines.reverse.flatten := by
  by_cases hplain : ∀ line ∈ lines, ∀ b ∈ line, b < 0x80
  · rw [List.map_congr_left fun line hline => mend_of_plain (hplain line hline), List.map_id']
  · have hline : ∃ line ∈ lines, ∃ b ∈ line, 0x80 ≤ b := by
      by_contra hnone
      apply hplain
      intro line hline b hb
      by_contra hwide
      exact hnone ⟨line, hline, b, hb, UInt8.not_lt.mp hwide⟩
    obtain ⟨line, hline, hwide⟩ := hline
    have hnone {others : List Bytes} {part : Bytes} (hpart : part ∈ others)
        (hwide : ∃ b ∈ part, 0x80 ≤ b) : decode? others.reverse.flatten = none := by
      obtain ⟨b, hb, hbound⟩ := hwide
      apply decode?_of_isForeign (isForeign_of_wide hbound)
      exact List.mem_flatten.mpr ⟨part, List.mem_reverse.mpr hpart, hb⟩
    rw [hnone hline hwide, hnone (List.mem_map_of_mem hline) (exists_wide_mend hwide)]

end Base64

namespace Pem

variable {b : UInt8} {text line label front rest : Bytes}

/-! ### Lines -/

theorem lines_append_of_none (hne : front ≠ []) (h : ∀ b ∈ front, isLineEnd b = false) :
    lines (front ++ rest) =
      match lines rest with
      | [] => [front]
      | line :: others => (front ++ line) :: others := by
  induction front with
  | nil => exact absurd rfl hne
  | cons b front ih =>
      rw [List.cons_append, lines, h b List.mem_cons_self]
      by_cases hfront : front = []
      · rw [hfront]
        rfl
      · rw [ih hfront fun c hc => h c (List.mem_cons_of_mem _ hc)]
        cases lines rest <;> rfl

theorem head?_of_lines {others : List Bytes} (h : lines text = line :: others) :
    line.head? = text.head? := by
  cases text with
  | nil => cases h
  | cons b rest =>
      rw [lines] at h
      split at h
      · cases h
        rfl
      · split at h
        · cases h
          rfl
        · cases h
          rfl

theorem isLineEnd_of_wide (h : 0x80 ≤ b) : isLineEnd b = false := by
  rw [isLineEnd, Bool.or_eq_false_iff, beq_eq_false_iff_ne, beq_eq_false_iff_ne]
  exact ⟨fun heq => absurd (heq ▸ h) (by decide), fun heq => absurd (heq ▸ h) (by decide)⟩

/-- Lines are mended one by one. -/
theorem lines_mend (text : Bytes) : lines (mend text) = (lines text).map mend := by
  induction text using runs_induction with
  | nil => rfl
  | plain b rest hb ih =>
      rw [mend_cons_of_plain hb, lines, lines]
      split
      · rw [ih, List.map_cons, mend_cons_of_plain hb, mend_nil]
      · rw [ih]
        cases lines rest with
        | nil => simp only [List.map_cons, List.map_nil, mend_cons_of_plain hb, mend_nil]
        | cons line others => simp only [List.map_cons, mend_cons_of_plain hb]
  | wide run rest hne hrun hplain ih =>
      have hnone : ∀ b ∈ run, isLineEnd b = false := fun b hb => isLineEnd_of_wide (hrun b hb)
      have hmended : ∀ b ∈ mend run, isLineEnd b = false := fun b hb =>
        isLineEnd_of_wide (mend_of_wide hrun b hb)
      rw [mend_append hplain, lines_append_of_none (mt mend_eq_nil_iff.mp hne) hmended,
        lines_append_of_none hne hnone, ih]
      cases hlines : lines rest with
      | nil => rfl
      | cons line others =>
          have hline : BeginsPlain line := by
            rw [BeginsPlain, head?_of_lines hlines]
            exact hplain
          simp only [List.map_cons, mend_append hline]

/-! ### Marks -/

theorem after?_mend {mark : Bytes} (h : ∀ b ∈ mark, b < 0x80) (line : Bytes) :
    after? mark (mend line) = (after? mark line).map mend := by
  rw [after?, after?, isPrefixOf_mend h]
  split
  · next hprefix =>
      obtain ⟨rest, rfl⟩ := List.isPrefixOf_iff_prefix.mp hprefix
      rw [mend_append_of_plain h, List.drop_left, List.drop_left]
      rfl
  · rfl

/-- What may stand between and behind the dashes at the end of a line that begins a section. -/
def isTrailing (b : UInt8) : Bool := b == dash || b == 0x20 || isLineEnd b

theorem openedLabel?_eq (rest : Bytes) :
    openedLabel? rest =
      if (rest.rtakeWhile isTrailing).count dash = 5 then
        some (rest.rdropWhile isTrailing ++ (rest.rtakeWhile isTrailing).takeWhile (· != dash))
      else none := by
  have hdrop : rest.reverse.drop (rest.reverse.takeWhile isTrailing).length =
      rest.reverse.dropWhile isTrailing := by
    have hleft := @List.drop_left _ (rest.reverse.takeWhile isTrailing)
      (rest.reverse.dropWhile isTrailing)
    rwa [List.takeWhile_append_dropWhile] at hleft
  rw [List.rtakeWhile, List.rdropWhile, List.count_reverse, ← hdrop]
  rfl

private theorem split_at_trailing {tail : Bytes} (htail : ∀ b ∈ tail, isTrailing b = true)
    (hfront : ∀ b, front.getLast? = some b → isTrailing b = false) :
    (front ++ tail).rtakeWhile isTrailing = tail ∧
      (front ++ tail).rdropWhile isTrailing = front := by
  have hrun : ∀ b ∈ tail.reverse, isTrailing b = true :=
    fun b hb => htail b (List.mem_reverse.mp hb)
  have hstop : front.reverse.takeWhile isTrailing = [] ∧
      front.reverse.dropWhile isTrailing = front.reverse := by
    cases hreverse : front.reverse with
    | nil => exact ⟨rfl, rfl⟩
    | cons b others =>
        have hb : ¬ isTrailing b = true := by
          rw [hfront b (by rw [List.getLast?_eq_head?_reverse, hreverse]; rfl)]
          exact Bool.false_ne_true
        exact ⟨List.takeWhile_cons_of_neg hb, List.dropWhile_cons_of_neg hb⟩
  constructor
  · rw [List.rtakeWhile, List.reverse_append, List.takeWhile_append_of_pos hrun, hstop.1,
      List.append_nil, List.reverse_reverse]
  · rw [List.rdropWhile, List.reverse_append, List.dropWhile_append_of_pos hrun, hstop.2,
      List.reverse_reverse]

theorem plain_of_isTrailing (h : isTrailing b = true) : b < 0x80 := by
  by_contra hwide
  have hbound : 0x80 ≤ b := UInt8.not_lt.mp hwide
  rw [isTrailing, isLineEnd_of_wide hbound, Bool.or_false, Bool.or_eq_true, beq_iff_eq, beq_iff_eq]
    at h
  rcases h with rfl | rfl
  · exact absurd hbound (by decide)
  · exact absurd hbound (by decide)

/-- Dashes are found and the label in front of them is mended. -/
theorem openedLabel?_mend (rest : Bytes) :
    openedLabel? (mend rest) = (openedLabel? rest).map mend := by
  have htrailing : ∀ b ∈ rest.rtakeWhile isTrailing, isTrailing b = true := fun b hb =>
    List.mem_rtakeWhile_imp hb
  have hplain : ∀ b ∈ rest.rtakeWhile isTrailing, b < 0x80 := fun b hb =>
    plain_of_isTrailing (htrailing b hb)
  have hlast : ∀ b, (mend (rest.rdropWhile isTrailing)).getLast? = some b →
      isTrailing b = false := by
    intro b hb
    by_contra htrue
    have hbefore := getLast?_of_mend (plain_of_isTrailing (Bool.eq_true_of_not_eq_false htrue)) hb
    rw [List.rdropWhile, List.getLast?_reverse] at hbefore
    have hstop := List.head?_dropWhile_not isTrailing rest.reverse
    rw [hbefore] at hstop
    exact htrue hstop
  have hmend {tail : Bytes} (h : ∀ b ∈ tail, b < 0x80) :
      mend (rest.rdropWhile isTrailing ++ tail) = mend (rest.rdropWhile isTrailing) ++ tail := by
    rw [mend_append, mend_of_plain h]
    intro b hb
    exact h b (List.mem_of_mem_head? hb)
  obtain ⟨htail, hfront⟩ := split_at_trailing htrailing hlast
  have hwhole : mend rest = mend (rest.rdropWhile isTrailing) ++ rest.rtakeWhile isTrailing := by
    rw [← hmend hplain, List.rdropWhile_append_rtakeWhile]
  rw [openedLabel?_eq, hwhole, htail, hfront, openedLabel?_eq]
  split
  · rw [Option.map_some, hmend fun b hb => hplain b (List.takeWhile_prefix _ |>.subset hb)]
  · rfl

theorem plain_beginMark : ∀ b ∈ beginMark, b < 0x80 := plain_of_all (by decide)

theorem plain_endMark : ∀ b ∈ endMark, b < 0x80 := plain_of_all (by decide)

theorem plain_dashes : ∀ b ∈ dashes, b < 0x80 := plain_of_all (by decide)

theorem plain_text (known : PemLabel) : ∀ b ∈ ofString known.text, b < 0x80 := by
  apply plain_of_all
  cases known <;> decide

/-- Known labels are ASCII, so none is lost and none is won. -/
theorem ofText?_mend (label : Bytes) : PemLabel.ofText? (mend label) = PemLabel.ofText? label := by
  have hsame (known : PemLabel) :
      (ofString known.text == mend label) = (ofString known.text == label) := by
    rw [Bool.eq_iff_iff, beq_iff_eq, beq_iff_eq, eq_comm, mend_eq_iff_of_plain (plain_text known),
      eq_comm]
  simp only [PemLabel.ofText?, hsame]

/-! ### Sections -/

theorem closes_mend (h : closes label line = true) : closes (mend label) (mend line) = true := by
  obtain ⟨rest, rfl⟩ := List.isPrefixOf_iff_prefix.mp h
  have hplain : BeginsPlain (dashes ++ rest) := beginsPlain_cons (by decide)
  rw [List.append_assoc, List.append_assoc, mend_append_of_plain plain_endMark, mend_append hplain,
    mend_append_of_plain plain_dashes, ← List.append_assoc, ← List.append_assoc]
  exact List.isPrefixOf_iff_prefix.mpr (List.prefix_append _ _)

/-- A line that ends a section under a known label has always done so. -/
theorem closes_of_mend {known : PemLabel} (hlabel : PemLabel.ofText? label = some known)
    (h : closes (mend label) (mend line) = true) : closes label line = true := by
  have htext : label = ofString known.text := by
    have hfound := List.find?_some hlabel
    exact (eq_of_beq hfound).symm
  have hplain : ∀ b ∈ endMark ++ label ++ dashes, b < 0x80 := by
    intro b hb
    rw [htext, List.mem_append, List.mem_append] at hb
    rcases hb with (hmark | hlabel) | hdashes
    · exact plain_endMark b hmark
    · exact plain_text known b hlabel
    · exact plain_dashes b hdashes
  rw [htext, mend_of_plain (plain_text known), ← htext] at h
  rwa [closes, isPrefixOf_mend hplain] at h

/-- What is open between two lines: the label of a section, if there is one, and the lines that it
has so far, with the latest one first. -/
structure Progress where
  label : Option Bytes
  text : List Bytes

/-- What a line does: what is open behind it, and the section that ends on it if there is one under
a known label. -/
inductive Step : Progress → Bytes → Progress → Option PemItem → Prop
  | begins (p : Progress) {line behind label : Bytes} :
      after? beginMark line = some behind → openedLabel? behind = some label →
      Step p line ⟨some label, p.text⟩ none
  | outside (text : List Bytes) {line : Bytes} :
      after? beginMark line = none → Step ⟨none, text⟩ line ⟨none, text⟩ none
  | skips (text : List Bytes) {line label : Bytes} :
      after? beginMark line = none → closes label line = true → PemLabel.ofText? label = none →
      Step ⟨some label, text⟩ line ⟨none, []⟩ none
  | ends {text : List Bytes} {line label content : Bytes} {known : PemLabel} :
      after? beginMark line = none → closes label line = true →
      PemLabel.ofText? label = some known →
      Base64.decode? text.reverse.flatten = some content →
      Step ⟨some label, text⟩ line ⟨none, []⟩ (some ⟨known, content⟩)
  | goesOn (text : List Bytes) {line label : Bytes} :
      after? beginMark line = none → closes label line = false →
      Step ⟨some label, text⟩ line ⟨some label, line :: text⟩ none

/-- The lines can be read to their end, and these are the sections in them. -/
inductive Reads : Progress → List Bytes → List PemItem → Prop
  | done (text : List Bytes) : Reads ⟨none, text⟩ [] []
  | line {p next : Progress} {line : Bytes} {found : Option PemItem} {rest : List Bytes}
      {items : List PemItem} :
      Step p line next found → Reads next rest items →
      Reads p (line :: rest) (found.toList ++ items)

section

variable {others : List Bytes} (opened : Option Bytes) (lines : List Bytes)

theorem sections_begin {behind : Bytes} (h : after? beginMark line = some behind) :
    sections opened lines (line :: others) =
      match openedLabel? behind with
      | some label => sections (some label) lines others
      | none => [.error (.illegalStart line)] := by
  cases hlabel : openedLabel? behind with
  | none => cases opened <;> simp only [sections, h, hlabel]
  | some label => cases opened <;> simp only [sections, h, hlabel]

theorem sections_outside (h : after? beginMark line = none) :
    sections none lines (line :: others) = sections none lines others := by
  simp only [sections, h]

theorem sections_closed (h : after? beginMark line = none) (hcloses : closes label line = true) :
    sections (some label) lines (line :: others) =
      match PemLabel.ofText? label with
      | none => sections none [] others
      | some known =>
        match Base64.decode? lines.reverse.flatten with
        | some content => .ok ⟨known, content⟩ :: sections none [] others
        | none => [.error .badText] := by
  cases hlabel : PemLabel.ofText? label with
  | none => simp only [sections, h, hcloses, hlabel, if_true]
  | some known =>
      cases hcontent : Base64.decode? lines.reverse.flatten with
      | none => simp only [sections, h, hcloses, hlabel, hcontent, if_true]
      | some content => simp only [sections, h, hcloses, hlabel, hcontent, if_true]

theorem sections_open (h : after? beginMark line = none) (hopen : closes label line = false) :
    sections (some label) lines (line :: others) =
      sections (some label) (line :: lines) others := by
  simp only [sections, h, hopen, Bool.false_eq_true, if_false]

end

private theorem mapM_ok_cons {found : PemItem} {others : List (Except PemFault PemItem)}
    {items : List PemItem} :
    (.ok found :: others).mapM id = .ok items ↔
      ∃ later, items = found :: later ∧ others.mapM id = .ok later := by
  rw [List.mapM_cons]
  cases others.mapM id with
  | error fault => exact iff_of_false nofun (by rintro ⟨_, _, ⟨⟩⟩)
  | ok later =>
      constructor
      · rintro ⟨⟩
        exact ⟨later, rfl, rfl⟩
      · rintro ⟨_, rfl, ⟨⟩⟩
        rfl

theorem reads_of_sections {label : Option Bytes} {text lines : List Bytes} {items : List PemItem}
    (h : (sections label text lines).mapM id = .ok items) : Reads ⟨label, text⟩ lines items := by
  induction lines generalizing label text items with
  | nil =>
      cases label with
      | none =>
          cases h
          exact .done text
      | some label => cases h
  | cons line rest ih =>
      cases hbegin : after? beginMark line with
      | some behind =>
          rw [sections_begin _ _ hbegin] at h
          cases hopened : openedLabel? behind with
          | none =>
              rw [hopened] at h
              cases h
          | some label =>
              rw [hopened] at h
              exact .line (.begins _ hbegin hopened) (ih h)
      | none =>
          cases label with
          | none =>
              rw [sections_outside _ hbegin] at h
              exact .line (.outside text hbegin) (ih h)
          | some label =>
              cases hcloses : closes label line with
              | false =>
                  rw [sections_open _ hbegin hcloses] at h
                  exact .line (.goesOn text hbegin hcloses) (ih h)
              | true =>
                  rw [sections_closed _ hbegin hcloses] at h
                  cases hknown : PemLabel.ofText? label with
                  | none =>
                      rw [hknown] at h
                      exact .line (.skips text hbegin hcloses hknown) (ih h)
                  | some known =>
                      cases hcontent : Base64.decode? text.reverse.flatten with
                      | none =>
                          simp only [hknown, hcontent] at h
                          cases h
                      | some content =>
                          simp only [hknown, hcontent] at h
                          obtain ⟨later, rfl, hlater⟩ := mapM_ok_cons.mp h
                          exact .line (.ends hbegin hcloses hknown hcontent) (ih hlater)

theorem sections_of_reads {p : Progress} {lines : List Bytes} {items : List PemItem}
    (h : Reads p lines items) : (sections p.label p.text lines).mapM id = .ok items := by
  induction h with
  | done text => rfl
  | line hstep _ ih =>
      cases hstep with
      | begins p hbegin hopened =>
          rw [sections_begin _ _ hbegin, hopened]
          exact ih
      | outside text hbegin =>
          rw [sections_outside _ hbegin]
          exact ih
      | skips text hbegin hcloses hlabel =>
          rw [sections_closed _ hbegin hcloses, hlabel]
          exact ih
      | ends hbegin hcloses hlabel hcontent =>
          rw [sections_closed _ hbegin hcloses]
          simp only [hlabel, hcontent]
          exact mapM_ok_cons.mpr ⟨_, rfl, ih⟩
      | goesOn text hbegin hopen =>
          rw [sections_open _ hbegin hopen]
          exact ih

/-! ### Sections of a mended text -/

/-- What is open in the mended text while something is open in the text itself. -/
inductive Mends : Progress → Progress → Prop
  | closed : Mends ⟨none, []⟩ ⟨none, []⟩
  /-- The same section is open, with the same lines in it. -/
  | alike (label : Bytes) (text : List Bytes) :
      Mends ⟨some label, text⟩ ⟨some (mend label), text.map mend⟩
  /-- The section has ended in the mended text alone, on a line with dashes that is part of it
  here. -/
  | ahead (label : Bytes) {text : List Bytes} :
      dash ∈ text.flatten → Mends ⟨some label, text⟩ ⟨none, []⟩
  /-- Another section has begun after that, which has fewer lines in the mended text. -/
  | spoiled (label : Bytes) {text : List Bytes} (fewer : List Bytes) :
      dash ∈ text.flatten → Mends ⟨some label, text⟩ ⟨some (mend label), fewer⟩

theorem decode?_of_dash {lines : List Bytes} (h : dash ∈ lines.flatten) :
    Base64.decode? lines.reverse.flatten = none := by
  apply Base64.decode?_of_isForeign Base64.isForeign_dash
  simpa using h

theorem dash_mem_of_closes (h : closes (mend label) (mend line) = true) : dash ∈ line := by
  have hmark : endMark.isPrefixOf (mend line) = true := by
    rw [closes, List.append_assoc] at h
    obtain ⟨rest, hrest⟩ := List.isPrefixOf_iff_prefix.mp h
    exact List.isPrefixOf_iff_prefix.mpr ⟨_, (List.append_assoc _ _ _).symm.trans hrest⟩
  rw [isPrefixOf_mend plain_endMark] at hmark
  exact (List.isPrefixOf_iff_prefix.mp hmark).subset (by decide)

/-- One line keeps what is open in the mended text in step. -/
theorem Mends.step {p q next : Progress} {found : Option PemItem} (hmends : Mends p q)
    (h : Step p line next found) : ∃ after, Step q (mend line) after found ∧ Mends next after := by
  have hnone (hbegin : after? beginMark line = none) : after? beginMark (mend line) = none := by
    rw [after?_mend plain_beginMark, hbegin]
    rfl
  cases h with
  | begins _ hbegin hopened =>
      refine ⟨_, .begins q (by rw [after?_mend plain_beginMark, hbegin]; rfl)
        (by rw [openedLabel?_mend, hopened]; rfl), ?_⟩
      cases hmends with
      | closed => exact .alike _ []
      | alike label text => exact .alike _ text
      | ahead label hdash => exact .spoiled _ [] hdash
      | spoiled label fewer hdash => exact .spoiled _ fewer hdash
  | outside text hbegin =>
      cases hmends with
      | closed => exact ⟨_, .outside [] (hnone hbegin), .closed⟩
  | @skips _ _ label hbegin hcloses hlabel =>
      have hmended (lines : List Bytes) :
          Step ⟨some (mend label), lines⟩ (mend line) ⟨none, []⟩ none :=
        .skips lines (hnone hbegin) (closes_mend hcloses) (by rw [ofText?_mend, hlabel])
      cases hmends with
      | alike _ _ => exact ⟨_, hmended _, .closed⟩
      | ahead _ _ => exact ⟨_, .outside [] (hnone hbegin), .closed⟩
      | spoiled _ fewer _ => exact ⟨_, hmended fewer, .closed⟩
  | ends hbegin hcloses hlabel hcontent =>
      cases hmends with
      | alike label text =>
          refine ⟨_, .ends (hnone hbegin) (closes_mend hcloses) (by rw [ofText?_mend, hlabel]) ?_,
            .closed⟩
          rw [Base64.decode?_mend, hcontent]
      | ahead label hdash =>
          rw [decode?_of_dash hdash] at hcontent
          cases hcontent
      | spoiled label fewer hdash =>
          rw [decode?_of_dash hdash] at hcontent
          cases hcontent
  | @goesOn text _ label hbegin hopen =>
      have hlonger (h : dash ∈ text.flatten) : dash ∈ (line :: text).flatten := by
        rw [List.flatten_cons]
        exact List.mem_append_right _ h
      have hunknown (hcloses : closes (mend label) (mend line) = true) :
          PemLabel.ofText? (mend label) = none := by
        rw [ofText?_mend]
        cases hlabel : PemLabel.ofText? label with
        | none => rfl
        | some known =>
            rw [closes_of_mend hlabel hcloses] at hopen
            cases hopen
      cases hmends with
      | ahead _ hdash => exact ⟨_, .outside [] (hnone hbegin), .ahead label (hlonger hdash)⟩
      | alike _ _ =>
          cases hcloses : closes (mend label) (mend line) with
          | false => exact ⟨_, .goesOn _ (hnone hbegin) hcloses, .alike label (line :: text)⟩
          | true =>
              refine ⟨_, .skips _ (hnone hbegin) hcloses (hunknown hcloses), .ahead label ?_⟩
              rw [List.flatten_cons]
              exact List.mem_append_left _ (dash_mem_of_closes hcloses)
      | spoiled _ fewer hdash =>
          cases hcloses : closes (mend label) (mend line) with
          | false =>
              exact ⟨_, .goesOn fewer (hnone hbegin) hcloses, .spoiled label _ (hlonger hdash)⟩
          | true =>
              exact ⟨_, .skips fewer (hnone hbegin) hcloses (hunknown hcloses),
                .ahead label (hlonger hdash)⟩

theorem Mends.reads {p q : Progress} {lines : List Bytes} {items : List PemItem}
    (hmends : Mends p q) (h : Reads p lines items) : Reads q (lines.map mend) items := by
  induction h generalizing q with
  | done text =>
      cases hmends
      exact .done _
  | line hstep _ ih =>
      obtain ⟨after, hafter, hnext⟩ := hmends.step hstep
      exact .line hafter (ih hnext)

end Pem

end WorkloadIdentity
