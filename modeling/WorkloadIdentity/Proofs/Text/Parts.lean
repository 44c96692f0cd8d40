import Mathlib.Data.List.Basic
import Mathlib.Data.List.Flatten
import Mathlib.Data.List.TakeWhile
import WorkloadIdentity.Text.Segments

/-!
Texts that are cut at separators, and parts that are joined. A text is its parts with the separator
between each two, and it is told by them; with another mark in the place of the separator it is told
only where that mark is not in it.
-/

namespace WorkloadIdentity.Text

variable {isSep : Char → Bool} {sep mark : Char} {cs ds more part : List Char}
variable {parts others : List (List Char)}

/-! ### Cutting -/

theorem splitBy_ne_nil (isSep : Char → Bool) (cs : List Char) : splitBy isSep cs ≠ [] := by
  cases cs with
  | nil => exact List.cons_ne_nil _ _
  | cons c cs =>
      rw [splitBy]
      split
      · exact List.cons_ne_nil _ _
      · split
        · exact List.cons_ne_nil _ _
        · exact List.cons_ne_nil _ _

theorem splitBy_append_cons {c : Char} (h : isSep c = true) :
    splitBy isSep (cs ++ c :: more) = splitBy isSep cs ++ splitBy isSep more := by
  induction cs with
  | nil => simp only [List.nil_append, splitBy, h, if_true, List.singleton_append]
  | cons d cs ih =>
      rw [List.cons_append, splitBy, splitBy, ih]
      split
      · rfl
      · cases hparts : splitBy isSep cs with
        | nil => exact absurd hparts (splitBy_ne_nil _ _)
        | cons part parts => rfl

theorem splitBy_of_none (h : ∀ c ∈ cs, isSep c = false) : splitBy isSep cs = [cs] := by
  induction cs with
  | nil => rfl
  | cons c cs ih =>
      have hc : ¬isSep c = true := by simp [h c List.mem_cons_self]
      rw [splitBy, if_neg hc, ih fun d hd => h d (List.mem_cons_of_mem _ hd)]

/-- Characters that do not separate belong to the last part. -/
theorem splitBy_append_of_none (cs : List Char) (h : ∀ c ∈ more, isSep c = false) :
    ∃ front last, splitBy isSep cs = front ++ [last] ∧
      splitBy isSep (cs ++ more) = front ++ [last ++ more] := by
  induction cs with
  | nil => exact ⟨[], [], rfl, splitBy_of_none h⟩
  | cons c cs ih =>
      obtain ⟨front, last, hparts, hmore⟩ := ih
      by_cases hc : isSep c = true
      · refine ⟨[] :: front, last, ?_, ?_⟩
        · rw [splitBy, if_pos hc, hparts, List.cons_append]
        · rw [List.cons_append, splitBy, if_pos hc, hmore, List.cons_append]
      · cases front with
        | nil =>
            refine ⟨[], c :: last, ?_, ?_⟩
            · rw [splitBy, if_neg hc, hparts]
              rfl
            · rw [List.cons_append, splitBy, if_neg hc, hmore]
              rfl
        | cons part front =>
            refine ⟨(c :: part) :: front, last, ?_, ?_⟩
            · rw [splitBy, if_neg hc, hparts]
              rfl
            · rw [List.cons_append, splitBy, if_neg hc, hmore]
              rfl

/-- No part has a separator in it. -/
theorem isSep_of_mem_splitBy {c : Char} (h : part ∈ splitBy isSep cs) (hc : c ∈ part) :
    isSep c = false := by
  induction cs generalizing part with
  | nil =>
      obtain rfl := List.mem_singleton.mp h
      cases hc
  | cons d cs ih =>
      rw [splitBy] at h
      split at h
      · rcases List.mem_cons.mp h with rfl | hrest
        · cases hc
        · exact ih hrest hc
      · next hd =>
          rw [Bool.not_eq_true] at hd
          split at h
          · next first parts hparts =>
              rw [hparts] at ih
              rcases List.mem_cons.mp h with rfl | hrest
              · rcases List.mem_cons.mp hc with rfl | hfirst
                · exact hd
                · exact ih List.mem_cons_self hfirst
              · exact ih (List.mem_cons_of_mem _ hrest) hc
          · obtain rfl := List.mem_singleton.mp h
            obtain rfl := List.mem_singleton.mp hc
            exact hd

theorem splitOn_cons_ne {c : Char} (h : c ≠ sep) (cs : List Char) :
    splitOn sep (c :: cs) =
      match splitOn sep cs with
      | part :: parts => (c :: part) :: parts
      | [] => [[c]] := by
  rw [splitOn, splitBy, if_neg (by simpa using h)]
  rfl

theorem splitOn_cons_self (cs : List Char) : splitOn sep (sep :: cs) = [] :: splitOn sep cs := by
  simp [splitOn, splitBy]

theorem splitOn_of_not_mem (h : sep ∉ part) : splitOn sep part = [part] := by
  apply splitBy_of_none
  intro c hc
  rw [beq_eq_false_iff_ne]
  exact ne_of_mem_of_not_mem hc h

theorem splitOn_append (h : sep ∉ part) (cs : List Char) :
    splitOn sep (part ++ sep :: cs) = part :: splitOn sep cs := by
  have hparts : splitOn sep (part ++ sep :: cs) = splitOn sep part ++ splitOn sep cs :=
    splitBy_append_cons (by simp)
  rw [hparts, splitOn_of_not_mem h, List.singleton_append]

theorem splitOn_intercalate (hparts : parts ≠ []) (h : ∀ part ∈ parts, sep ∉ part) :
    splitOn sep ([sep].intercalate parts) = parts := by
  induction parts with
  | nil => exact (hparts rfl).elim
  | cons part parts ih =>
      have hpart : sep ∉ part := h part (by simp)
      cases parts with
      | nil =>
          rw [List.intercalate_singleton]
          exact splitOn_of_not_mem hpart
      | cons next rest =>
          rw [List.intercalate_cons_cons, List.append_assoc, List.singleton_append,
            splitOn_append hpart, ih (by simp) fun other hother => h other (by simp [hother])]

theorem not_mem_of_mem_splitOn (h : part ∈ splitOn sep cs) : sep ∉ part := by
  intro hmem
  simpa using isSep_of_mem_splitBy h hmem

/-- A text is cut at its last separator in one way. -/
theorem append_sep_inj {t u : List Char} (ht : sep ∉ t) (hu : sep ∉ u) :
    cs ++ sep :: t = ds ++ sep :: u ↔ cs = ds ∧ t = u := by
  constructor
  · intro h
    have hback := congrArg List.reverse h
    simp only [List.reverse_append, List.reverse_cons, List.append_assoc, List.singleton_append]
      at hback
    have hcut := congrArg (splitOn sep) hback
    rw [splitOn_append (by simpa using ht), splitOn_append (by simpa using hu)] at hcut
    obtain rfl := List.reverse_injective (List.cons.inj hcut).1
    exact ⟨List.append_cancel_right h, rfl⟩
  · rintro ⟨rfl, rfl⟩
    rfl

theorem after?_eq_some_iff {beginning rest : List Char} :
    after? beginning cs = some rest ↔ cs = beginning ++ rest := by
  unfold after?
  constructor
  · intro h
    split at h
    · next hprefix =>
        obtain ⟨behind, rfl⟩ := List.isPrefixOf_iff_prefix.mp hprefix
        rw [List.drop_left] at h
        rw [Option.some.inj h]
    · cases h
  · rintro rfl
    rw [if_pos (List.isPrefixOf_iff_prefix.mpr (List.prefix_append _ _)), List.drop_left]

theorem eq_of_cutLast? {before after : List Char} (h : cutLast? sep cs = some (before, after)) :
    cs = before ++ sep :: after := by
  unfold cutLast? at h
  split at h
  · next hmem =>
      obtain ⟨rfl, rfl⟩ := Prod.mk.inj (Option.some.inj h)
      have hback : sep ∈ cs.reverse := List.mem_reverse.mpr (List.contains_iff_mem.mp hmem)
      obtain ⟨rest, hrest⟩ : ∃ rest, cs.reverse.dropWhile (· != sep) = sep :: rest := by
        cases hdrop : cs.reverse.dropWhile (· != sep) with
        | nil => simpa using List.dropWhile_eq_nil_iff.mp hdrop sep hback
        | cons c rest =>
            have hc : c = sep := by
              simpa [hdrop] using List.head?_dropWhile_not (· != sep) cs.reverse
            exact ⟨rest, by rw [hc]⟩
      have hcs := congrArg List.reverse
        (List.takeWhile_append_dropWhile (p := (· != sep)) (l := cs.reverse))
      rw [hrest, List.reverse_append, List.reverse_cons, List.reverse_reverse] at hcs
      rw [hrest]
      exact hcs.symm.trans (by simp)
  · cases h

/-! ### Joining -/

theorem join_cons (h : parts ≠ []) (part sep : List Char) :
    join sep (part :: parts) = part ++ sep ++ join sep parts := by
  cases parts with
  | nil => exact absurd rfl h
  | cons _ _ => rfl

theorem join_eq_intercalate (sep : List Char) (parts : List (List Char)) :
    join sep parts = sep.intercalate parts := by
  induction parts with
  | nil => rfl
  | cons part parts ih =>
      by_cases hparts : parts = []
      · subst hparts
        rw [join, List.intercalate_singleton]
      · rw [join_cons hparts, List.intercalate_cons_of_ne_nil hparts, ih]

theorem join_append (hparts : parts ≠ []) (hothers : others ≠ []) (sep : List Char) :
    join sep (parts ++ others) = join sep parts ++ sep ++ join sep others := by
  induction parts with
  | nil => exact absurd rfl hparts
  | cons part parts ih =>
      cases parts with
      | nil => exact join_cons hothers part sep
      | cons next rest =>
          have hhead : join sep (part :: next :: rest) = part ++ sep ++ join sep (next :: rest) :=
            rfl
          have hall : next :: rest ++ others ≠ [] := List.cons_ne_nil _ _
          rw [List.cons_append, join_cons hall, ih (List.cons_ne_nil next rest), hhead]
          simp only [List.append_assoc]

/-- All parts but the first have the separator in front of them. -/
theorem join_cons_eq_flatMap (sep : Char) (part : List Char) (parts : List (List Char)) :
    join [sep] (part :: parts) = part ++ parts.flatMap (sep :: ·) := by
  induction parts generalizing part with
  | nil => simp [join]
  | cons next parts ih =>
      rw [join_cons (List.cons_ne_nil next parts), ih, List.flatMap_cons]
      simp

/-- Without some of its parts a text has no more characters than with them. -/
theorem intercalate_sublist (h : parts.Sublist others) (sep : List Char) :
    (sep.intercalate parts).Sublist (sep.intercalate others) := by
  induction h with
  | slnil => exact List.Sublist.refl _
  | @cons parts others part h ih =>
      by_cases hothers : others = []
      · subst hothers
        rw [List.sublist_nil.mp h]
        exact List.nil_sublist _
      · rw [List.intercalate_cons_of_ne_nil hothers]
        exact ih.trans (List.sublist_append_right _ _)
  | @cons_cons parts others part h ih =>
      by_cases hothers : others = []
      · subst hothers
        rw [List.sublist_nil.mp h]
      · rw [List.intercalate_cons_of_ne_nil hothers]
        by_cases hparts : parts = []
        · subst hparts
          rw [List.intercalate_singleton, List.append_assoc]
          exact List.sublist_append_left _ _
        · rw [List.intercalate_cons_of_ne_nil hparts]
          exact List.Sublist.append_left ih _

/-- Fewer characters take no more bytes. -/
theorem utf8ByteSize_le_of_sublist {s t : String} (h : s.toList.Sublist t.toList) :
    s.utf8ByteSize ≤ t.utf8ByteSize := by
  have hbytes (s : String) :
      s.utf8ByteSize = (s.toList.flatMap String.utf8EncodeChar).length := by
    rw [String.utf8ByteSize, ← String.utf8Encode_toList, List.utf8Encode, List.size_toByteArray]
  rw [hbytes, hbytes]
  exact (h.flatMap _).length_le

/-! ### Another mark for the separator -/

/-- A text with another mark in the place of its separators. -/
def remark (sep mark : Char) (cs : List Char) : List Char :=
  cs.map fun c => if c = sep then mark else c

theorem join_splitOn (sep mark : Char) (cs : List Char) :
    join [mark] (splitOn sep cs) = remark sep mark cs := by
  induction cs with
  | nil => rfl
  | cons c cs ih =>
      have hne : splitOn sep cs ≠ [] := splitBy_ne_nil _ cs
      by_cases hc : c = sep
      · subst hc
        rw [splitOn_cons_self, join_cons hne, ih]
        simp [remark]
      · rw [splitOn_cons_ne hc]
        cases hparts : splitOn sep cs with
        | nil => exact absurd hparts hne
        | cons part parts =>
            rw [hparts] at ih
            have hremark : remark sep mark (c :: cs) = c :: remark sep mark cs := by
              simp [remark, hc]
            rw [hremark, ← ih]
            cases parts with
            | nil => rfl
            | cons _ _ => rfl

theorem remark_self (sep : Char) (cs : List Char) : remark sep sep cs = cs := by
  apply List.map_id''
  intro c
  split
  · next h => exact h.symm
  · rfl

theorem intercalate_splitOn (sep : Char) (cs : List Char) :
    [sep].intercalate (splitOn sep cs) = cs := by
  rw [← join_eq_intercalate, join_splitOn, remark_self]

/-- The parts of a text are those without separators that it is joined from. -/
theorem splitOn_eq_iff : splitOn sep cs = parts ↔
    parts ≠ [] ∧ (∀ part ∈ parts, sep ∉ part) ∧ cs = join [sep] parts := by
  constructor
  · rintro rfl
    refine ⟨splitBy_ne_nil _ cs, fun part => not_mem_of_mem_splitOn, ?_⟩
    rw [join_splitOn, remark_self]
  · rintro ⟨hne, hparts, rfl⟩
    rw [join_eq_intercalate, splitOn_intercalate hne hparts]

/-- Only a text without separators is left as it is. -/
theorem remark_eq_self_iff (hmark : mark ≠ sep) : remark sep mark cs = cs ↔ sep ∉ cs := by
  induction cs with
  | nil => simp [remark]
  | cons c cs ih =>
      have hcons : remark sep mark (c :: cs) =
          (if c = sep then mark else c) :: remark sep mark cs := rfl
      rw [hcons, List.cons.injEq, ih, List.mem_cons, not_or]
      refine and_congr_left fun _ => ?_
      split
      · next hc =>
          subst hc
          simpa using hmark
      · next hc => simpa using Ne.symm hc

/-- Without the mark in them, texts can be told apart by what they become. -/
theorem remark_inj (hcs : mark ∉ cs) (hds : mark ∉ ds) :
    remark sep mark cs = remark sep mark ds ↔ cs = ds := by
  constructor
  · intro h
    induction cs generalizing ds with
    | nil => exact (List.map_eq_nil_iff.mp h.symm).symm
    | cons c cs ih =>
        cases ds with
        | nil => cases h
        | cons d ds =>
            obtain ⟨hfirst, hrest⟩ := List.cons.inj h
            obtain ⟨hc, hcs⟩ := not_or.mp (List.mem_cons.not.mp hcs)
            obtain ⟨hd, hds⟩ := not_or.mp (List.mem_cons.not.mp hds)
            have hsame : c = d := by
              grind
            rw [hsame, ih hcs hds hrest]
  · rintro rfl
    rfl

end WorkloadIdentity.Text
