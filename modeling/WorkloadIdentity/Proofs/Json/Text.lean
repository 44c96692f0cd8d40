import Mathlib.Tactic.IntervalCases
import Mathlib.Tactic.SplitIfs
import WorkloadIdentity.Proofs.Json.Grammar
import WorkloadIdentity.Proofs.Text.Utf8

/-!
Reading the texts of JSON. The reader of a text ends it at the quote where the grammar ends it, and
the text is decoded to the characters that it spells, if it spells any.
-/

namespace WorkloadIdentity.Json

variable {b e : UInt8} {c : Char} {n : Nat} {bs raw rest front : Bytes} {cs : List Char}

/-! ### Bytes that stand for themselves -/

theorem unescape?_nil : unescape? [] = some [] := by rw [unescape?]

theorem unescape?_plain (h : b ≠ 0x5C) : unescape? (b :: rest) = (unescape? rest).map (b :: ·) := by
  rw [unescape?.eq_4 b rest (fun _ _ _ _ _ _ _ _ _ hb => absurd hb h)
    (fun _ _ _ _ _ hb => absurd hb h) (fun _ _ hb => absurd hb h)]
  cases unescape? rest <;> rfl

theorem unescape?_plain_append (h : ∀ x ∈ front, x ≠ 0x5C) :
    unescape? (front ++ rest) = (unescape? rest).map (front ++ ·) := by
  induction front with
  | nil => simp
  | cons x front ih =>
      have hrest := ih fun y hy => h y (List.mem_cons_of_mem _ hy)
      rw [List.cons_append, unescape?_plain (h x List.mem_cons_self), hrest, Option.map_map]
      rfl

/-! ### Escapes -/

/-- The table of the short escapes is the reader's, each character by its one byte. -/
theorem exists_shortEscape (h : escaped? b = some e) :
    ∃ c, (b, c) ∈ shortEscapes ∧ String.utf8EncodeChar c = [e] := by
  unfold escaped? at h
  split_ifs at h with hself hbackspace hfeed hline hreturn htab
  all_goals cases h
  · simp only [Bool.or_eq_true, beq_iff_eq] at hself
    rcases hself with (rfl | rfl) | rfl
    · exact ⟨'"', by decide, rfl⟩
    · exact ⟨'\\', by decide, rfl⟩
    · exact ⟨'/', by decide, rfl⟩
  · exact ⟨'\x08', by rw [eq_of_beq hbackspace]; decide, rfl⟩
  · exact ⟨'\x0C', by rw [eq_of_beq hfeed]; decide, rfl⟩
  · exact ⟨'\n', by rw [eq_of_beq hline]; decide, rfl⟩
  · exact ⟨'\r', by rw [eq_of_beq hreturn]; decide, rfl⟩
  · exact ⟨'\t', by rw [eq_of_beq htab]; decide, rfl⟩

theorem exists_escaped (h : (b, c) ∈ shortEscapes) :
    ∃ e, escaped? b = some e ∧ String.utf8EncodeChar c = [e] := by
  simp only [shortEscapes, List.mem_cons, Prod.mk.injEq, List.not_mem_nil, or_false] at h
  rcases h with ⟨rfl, rfl⟩ | ⟨rfl, rfl⟩ | ⟨rfl, rfl⟩ | ⟨rfl, rfl⟩ | ⟨rfl, rfl⟩ | ⟨rfl, rfl⟩ |
    ⟨rfl, rfl⟩ | ⟨rfl, rfl⟩
  all_goals exact ⟨_, rfl, rfl⟩

private theorem eq_ofNat_add {low : Nat} (h : low ≤ b.toNat) :
    UInt8.ofNat (low + (b.toNat - low)) = b := by
  rw [Nat.add_sub_cancel' h, UInt8.ofNat_toNat]

theorem hexDigit?_eq_some_iff : hexDigit? b = some n ↔ HexDigit b n := by
  constructor
  · intro h
    unfold hexDigit? at h
    split_ifs at h with hdecimal hupper hlower
    · simp only [Bool.and_eq_true, decide_eq_true_eq, UInt8.le_iff_toNat_le, UInt8.reduceToNat]
        at hdecimal
      obtain rfl := Option.some.inj h
      have hdigit := HexDigit.decimal (n := b.toNat - 0x30) (by omega)
      rwa [eq_ofNat_add hdecimal.1] at hdigit
    · simp only [Bool.and_eq_true, decide_eq_true_eq, UInt8.le_iff_toNat_le, UInt8.reduceToNat]
        at hupper
      obtain rfl := Option.some.inj h
      have hdigit := HexDigit.upper (n := b.toNat - 0x41) (by omega)
      rwa [eq_ofNat_add hupper.1, Nat.add_comm] at hdigit
    · simp only [Bool.and_eq_true, decide_eq_true_eq, UInt8.le_iff_toNat_le, UInt8.reduceToNat]
        at hlower
      obtain rfl := Option.some.inj h
      have hdigit := HexDigit.lower (n := b.toNat - 0x61) (by omega)
      rwa [eq_ofNat_add hlower.1, Nat.add_comm] at hdigit
  · intro h
    cases h with
    | decimal h => interval_cases n <;> rfl
    | @upper n h => interval_cases n <;> rfl
    | @lower n h => interval_cases n <;> rfl

theorem hexQuad?_eq_some_iff {w x y z : UInt8} : hexQuad? w x y z = some n ↔ HexQuad w x y z n := by
  simp only [hexQuad?, Option.bind_eq_bind, Option.bind_eq_some_iff, hexDigit?_eq_some_iff,
    Option.pure_def, Option.some.injEq]
  constructor
  · rintro ⟨_, hw, _, hx, _, hy, _, hz, rfl⟩
    exact .mk hw hx hy hz
  · rintro ⟨hw, hx, hy, hz⟩
    exact ⟨_, hw, _, hx, _, hy, _, hz, rfl⟩

/-! ### Where a text ends -/

theorem textBody_sound (h : textBody bs = some (raw, rest)) :
    IsTextBody raw ∧ bs = raw ++ 0x22 :: rest := by
  fun_induction textBody bs generalizing raw rest with
  | case1 => cases h
  | case2 rest =>
      cases h
      exact ⟨.nil, rfl⟩
  | case3 a b c d rest ih =>
      simp only [Option.bind_eq_bind, Option.bind_eq_some_iff, Option.pure_def] at h
      obtain ⟨n, hquad, ⟨inner, later⟩, hinner, ⟨⟩⟩ := h
      obtain ⟨hbody, rfl⟩ := ih hinner
      exact ⟨.unit (hexQuad?_eq_some_iff.mp hquad) hbody, rfl⟩
  | case4 b rest _ ih =>
      simp only [Option.bind_eq_bind, Option.bind_eq_some_iff, Option.pure_def] at h
      obtain ⟨e, hescaped, ⟨inner, later⟩, hinner, ⟨⟩⟩ := h
      obtain ⟨hbody, rfl⟩ := ih hinner
      obtain ⟨c, hescape, _⟩ := exists_shortEscape hescaped
      exact ⟨.short hescape hbody, rfl⟩
  | case5 => cases h
  | case6 b rest hquote _ _ hplain ih =>
      simp only [Option.bind_eq_bind, Option.bind_eq_some_iff, Option.pure_def] at h
      obtain ⟨⟨inner, later⟩, hinner, ⟨⟩⟩ := h
      obtain ⟨hbody, rfl⟩ := ih hinner
      simp only [Bool.or_eq_true, decide_eq_true_eq, beq_iff_eq, not_or] at hplain
      exact ⟨.plain hplain.1 hquote hplain.2 hbody, rfl⟩

/-- No short escape is written with a `u`. -/
private theorem ne_unit_of_escaped (h : escaped? b = some e) : b ≠ 0x75 := by
  rintro rfl
  cases h

theorem textBody_complete (h : IsTextBody raw) :
    textBody (raw ++ 0x22 :: rest) = some (raw, rest) := by
  induction h with
  | nil => rfl
  | @plain b inner hcontrol hquote hmark _ ih =>
      have hplain : ¬(decide (b < 0x20) || b == 0x5C) = true := by simp [hcontrol, hmark]
      rw [List.cons_append, textBody.eq_5 b _ hquote (fun _ _ _ _ _ h => absurd h hmark)
        (fun _ _ h => absurd h hmark), if_neg hplain, ih]
      rfl
  | @short b c inner hescape _ ih =>
      obtain ⟨e, hescaped, _⟩ := exists_escaped hescape
      have hunit := ne_unit_of_escaped hescaped
      rw [List.cons_append, List.cons_append,
        textBody.eq_4 b _ (fun _ _ _ _ _ h => absurd h hunit), hescaped, ih]
      rfl
  | @unit a b c d n inner hquad _ ih =>
      simp only [List.cons_append]
      rw [textBody.eq_3, hexQuad?_eq_some_iff.mpr hquad, ih]
      rfl

/-! ### Decoding -/

theorem unescape?_short (h : escaped? b = some e) :
    unescape? (0x5C :: b :: rest) = (unescape? rest).map (e :: ·) := by
  have hunit := ne_unit_of_escaped h
  rw [unescape?.eq_3 b rest (fun _ _ _ _ _ _ _ _ _ hb => absurd hb hunit)
    (fun _ _ _ _ _ hb => absurd hb hunit), h]
  cases unescape? rest <;> rfl

variable {w x y z : UInt8}

/-- A number that is no high surrogate stands for itself, whatever follows it. -/
theorem unescape?_unit (hquad : hexQuad? w x y z = some n) (hhigh : isHighSurrogate n = false) :
    unescape? (0x5C :: 0x75 :: w :: x :: y :: z :: rest) =
      if isLowSurrogate n then none
      else (unescape? rest).map (String.utf8EncodeChar (Char.ofNat n) ++ ·) := by
  by_cases hnext : ∃ e f g h rest', rest = 0x5C :: 0x75 :: e :: f :: g :: h :: rest'
  · obtain ⟨e, f, g, h, rest', rfl⟩ := hnext
    simp only [unescape?.eq_1, hquad, Option.bind_eq_bind, Option.bind_some, hhigh,
      Bool.false_eq_true, if_false]
    split
    · rfl
    · cases unescape? (0x5C :: 0x75 :: e :: f :: g :: h :: rest') <;> rfl
  · rw [unescape?.eq_2 w x y z rest (fun e f g h rest' hrest => hnext ⟨e, f, g, h, rest', hrest⟩)]
    simp only [hquad, Option.bind_eq_bind, Option.bind_some, hhigh, Bool.false_or]
    split
    · rfl
    · cases unescape? rest <;> rfl

theorem unescape?_pair {e f g h : UInt8} {m : Nat} (hquad : hexQuad? w x y z = some n)
    (hhigh : isHighSurrogate n = true) (hsecond : hexQuad? e f g h = some m)
    (hlow : isLowSurrogate m = true) :
    unescape? (0x5C :: 0x75 :: w :: x :: y :: z :: 0x5C :: 0x75 :: e :: f :: g :: h :: rest) =
      (unescape? rest).map (String.utf8EncodeChar
        (Char.ofNat (0x10000 + (n - 0xD800) * 0x400 + (m - 0xDC00))) ++ ·) := by
  simp only [unescape?.eq_1, hquad, hsecond, Option.bind_eq_bind, Option.bind_some, hhigh, hlow,
    if_true]
  cases unescape? rest <;> rfl

/-- A high surrogate is decoded together with the low one behind it, or not at all. -/
theorem exists_of_high {bytes : Bytes} (hquad : hexQuad? w x y z = some n)
    (hhigh : isHighSurrogate n = true)
    (h : unescape? (0x5C :: 0x75 :: w :: x :: y :: z :: rest) = some bytes) :
    ∃ e f g h rest' m, rest = 0x5C :: 0x75 :: e :: f :: g :: h :: rest' ∧
      hexQuad? e f g h = some m ∧ isLowSurrogate m = true := by
  by_cases hnext : ∃ e f g h rest', rest = 0x5C :: 0x75 :: e :: f :: g :: h :: rest'
  · obtain ⟨e, f, g, h', rest', rfl⟩ := hnext
    simp only [unescape?.eq_1, hquad, Option.bind_eq_bind, Option.bind_some, hhigh, if_true,
      Option.bind_eq_some_iff] at h
    obtain ⟨m, hsecond, h⟩ := h
    split at h
    · next hlow => exact ⟨e, f, g, h', rest', m, rfl, hsecond, hlow⟩
    · cases h
  · rw [unescape?.eq_2 w x y z rest
      (fun e f g h rest' hrest => hnext ⟨e, f, g, h, rest', hrest⟩)] at h
    simp only [hquad, Option.bind_eq_bind, Option.bind_some, hhigh, Bool.true_or, if_true] at h
    cases h

/-! ### Characters -/

private theorem ne_mark_of_continuation (h : Utf8.isContinuation b = true) :
    ¬b < 0x20 ∧ b ≠ 0x22 ∧ b ≠ 0x5C := by
  simp only [Utf8.isContinuation, Bool.and_eq_true, decide_eq_true_eq] at h
  refine ⟨?_, ?_, ?_⟩
  · intro hb
    exact absurd (UInt8.lt_of_le_of_lt h.1 hb) (by decide)
  · rintro rfl
    exact absurd h.1 (by decide)
  · rintro rfl
    exact absurd h.1 (by decide)

/-- The bytes of a character that may stand for itself may stand for themselves. -/
private theorem plain_bytes (hcontrol : ' ' ≤ c) (hquote : c ≠ '"') (hmark : c ≠ '\\') :
    ∀ b ∈ String.utf8EncodeChar c, ¬b < 0x20 ∧ b ≠ 0x22 ∧ b ≠ 0x5C := by
  obtain ⟨first, tail, hencoded⟩ :=
    List.exists_cons_of_ne_nil (String.utf8EncodeChar_ne_nil (c := c))
  rw [hencoded]
  intro b hb
  rcases List.mem_cons.mp hb with rfl | hb
  · have hsame (hb : b < 0x80) : c.toNat = b.toNat := Utf8.toNat_first hencoded (.inr hb)
    refine ⟨?_, ?_, ?_⟩
    · intro hlow
      have hc := hsame (UInt8.lt_trans hlow (by decide))
      have hlow' : b.toNat < 0x20 := hlow
      have hcontrol' : 0x20 ≤ c.toNat := hcontrol
      omega
    · rintro rfl
      exact hquote (Char.toNat_inj.mp (hsame (by decide)))
    · rintro rfl
      exact hmark (Char.toNat_inj.mp (hsame (by decide)))
  · exact ne_mark_of_continuation (Utf8.isContinuation_of_mem_tail hencoded b hb)

/-- A character whose first byte may stand for itself may do so. -/
private theorem SpelledChar.of_first {tail : Bytes} (h : String.utf8EncodeChar c = b :: tail)
    (hcontrol : ¬b < 0x20) (hquote : b ≠ 0x22) (hmark : b ≠ 0x5C) :
    SpelledChar c (b :: tail) := by
  have hsame (hc : c.toNat < 0x80) : c.toNat = b.toNat := Utf8.toNat_first h (.inl hc)
  rw [← h]
  refine .plain ?_ ?_ ?_
  · by_contra hlow
    have hlow' : c.toNat < 0x20 := Char.not_le.mp hlow
    apply hcontrol
    rw [UInt8.lt_iff_toNat_lt, ← hsame (by omega)]
    exact hlow'
  · rintro rfl
    exact hquote (UInt8.toNat_inj.mp (hsame (by decide)).symm)
  · rintro rfl
    exact hmark (UInt8.toNat_inj.mp (hsame (by decide)).symm)

theorem unescape?_spelled (h : SpelledChar c front) :
    unescape? (front ++ rest) = (unescape? rest).map (String.utf8EncodeChar c ++ ·) := by
  cases h with
  | plain hcontrol hquote hmark =>
      exact unescape?_plain_append fun b hb => (plain_bytes hcontrol hquote hmark b hb).2.2
  | short hescape =>
      obtain ⟨e, hescaped, hencoded⟩ := exists_escaped hescape
      rw [hencoded]
      exact unescape?_short hescaped
  | @unit _ _ _ _ n hquad hscalar =>
      have hhigh : isHighSurrogate n = false := by
        simp only [isHighSurrogate, Bool.and_eq_false_iff, decide_eq_false_iff_not]
        omega
      have hlow : isLowSurrogate n = false := by
        simp only [isLowSurrogate, Bool.and_eq_false_iff, decide_eq_false_iff_not]
        omega
      refine (unescape?_unit (hexQuad?_eq_some_iff.mpr hquad) hhigh).trans ?_
      rw [hlow]
      rfl
  | pair hquad hhigh hsecond hlow =>
      exact unescape?_pair (hexQuad?_eq_some_iff.mpr hquad) (by simpa [isHighSurrogate] using hhigh)
        (hexQuad?_eq_some_iff.mpr hsecond) (by simpa [isLowSurrogate] using hlow)

theorem SpelledText.isTextBody (h : SpelledText cs raw) : IsTextBody raw := by
  induction h with
  | nil => exact .nil
  | @cons c cs front raw hchar _ ih =>
      cases hchar with
      | plain hcontrol hquote hmark =>
          have hbytes := plain_bytes hcontrol hquote hmark
          generalize String.utf8EncodeChar c = front at hbytes
          induction front with
          | nil => exact ih
          | cons b front ihfront =>
              obtain ⟨hlow, hnot, hnot'⟩ := hbytes b List.mem_cons_self
              have hothers := fun x hx => hbytes x (List.mem_cons_of_mem _ hx)
              exact .plain hlow hnot hnot' (ihfront hothers)
      | short hescape => exact .short hescape ih
      | unit hquad _ => exact .unit hquad ih
      | pair hquad _ hsecond _ => exact .unit hquad (.unit hsecond ih)

theorem SpelledText.unescape?_eq (h : SpelledText cs raw) :
    unescape? raw = some (Utf8.encode cs) := by
  induction h with
  | nil => exact unescape?_nil
  | cons hchar _ ih => rw [unescape?_spelled hchar, ih, Option.map_some, Utf8.encode_cons]

/-! ### Texts -/

/-- What decoding takes first: nothing, a byte that stands for itself, or an escape. -/
theorem unescape?_cases {bytes : Bytes} (hraw : IsTextBody raw) (h : unescape? raw = some bytes) :
    (raw = [] ∧ bytes = []) ∨
    (∃ b rest tail, raw = b :: rest ∧ bytes = b :: tail ∧ (¬b < 0x20 ∧ b ≠ 0x22 ∧ b ≠ 0x5C) ∧
      IsTextBody rest ∧ unescape? rest = some tail) ∨
    ∃ c front rest tail, raw = front ++ rest ∧ bytes = String.utf8EncodeChar c ++ tail ∧
      SpelledChar c front ∧ IsTextBody rest ∧ unescape? rest = some tail := by
  -- An escape is a spelling of some character, and what it stands for is decoded in front.
  have hescape {c : Char} {front rest : Bytes} (hraw : raw = front ++ rest)
      (hchar : SpelledChar c front) (hrest : IsTextBody rest) :
      ∃ c front rest tail, raw = front ++ rest ∧ bytes = String.utf8EncodeChar c ++ tail ∧
        SpelledChar c front ∧ IsTextBody rest ∧ unescape? rest = some tail := by
    rw [hraw, unescape?_spelled hchar, Option.map_eq_some_iff] at h
    obtain ⟨tail, htail, rfl⟩ := h
    exact ⟨c, front, rest, tail, hraw, rfl, hchar, hrest, htail⟩
  cases hraw with
  | nil =>
      exact .inl ⟨rfl, (Option.some.inj (unescape?_nil.symm.trans h)).symm⟩
  | @plain b rest hcontrol hquote hmark hrest =>
      rw [unescape?_plain hmark, Option.map_eq_some_iff] at h
      obtain ⟨tail, htail, rfl⟩ := h
      exact .inr (.inl ⟨b, rest, tail, rfl, rfl, ⟨hcontrol, hquote, hmark⟩, hrest, htail⟩)
  | short hshort hrest => exact .inr (.inr (hescape rfl (.short hshort) hrest))
  | @unit w x y z n rest hquad hrest =>
      refine .inr (.inr ?_)
      have hread := hexQuad?_eq_some_iff.mpr hquad
      cases hhigh : isHighSurrogate n with
      | true =>
          obtain ⟨e, f, g, k, rest', m, rfl, hsecond, hlow⟩ := exists_of_high hread hhigh h
          simp only [isHighSurrogate, isLowSurrogate, Bool.and_eq_true, decide_eq_true_eq]
            at hhigh hlow
          cases hrest with
          | plain _ _ hmark _ => exact absurd rfl hmark
          | short hshort _ =>
              obtain ⟨_, hescaped, _⟩ := exists_escaped hshort
              exact absurd rfl (ne_unit_of_escaped hescaped)
          | unit _ hrest' =>
              exact hescape rfl (.pair hquad hhigh (hexQuad?_eq_some_iff.mp hsecond) hlow) hrest'
      | false =>
          cases hlow : isLowSurrogate n with
          | true =>
              rw [unescape?_unit hread hhigh, hlow] at h
              cases h
          | false =>
              simp only [isHighSurrogate, isLowSurrogate, Bool.and_eq_false_iff,
                decide_eq_false_iff_not] at hhigh hlow
              exact hescape rfl (.unit hquad (by omega)) hrest

/-- A byte that continues a character was not decoded from an escape. -/
theorem unescape?_continuation {tail : Bytes} (hfront : ∀ x ∈ front, Utf8.isContinuation x = true)
    (hraw : IsTextBody raw) (h : unescape? raw = some (front ++ tail)) :
    ∃ rest, raw = front ++ rest ∧ IsTextBody rest ∧ unescape? rest = some tail := by
  induction front generalizing raw with
  | nil => exact ⟨raw, rfl, hraw, h⟩
  | cons x front ih =>
      rcases unescape?_cases hraw h with ⟨_, hnone⟩ |
        ⟨b, rest, later, rfl, hbytes, _, hrest, hlater⟩ |
        ⟨c, _, rest, later, rfl, hbytes, _, _, _⟩
      · cases hnone
      · rw [List.cons_append, List.cons.injEq] at hbytes
        obtain ⟨rfl, rfl⟩ := hbytes
        obtain ⟨rest', rfl, hrest', hlater'⟩ :=
          ih (fun y hy => hfront y (List.mem_cons_of_mem _ hy)) hrest hlater
        exact ⟨rest', rfl, hrest', hlater'⟩
      · obtain ⟨first, others, hencoded⟩ :=
          List.exists_cons_of_ne_nil (String.utf8EncodeChar_ne_nil (c := c))
        rw [hencoded, List.cons_append, List.cons_append, List.cons.injEq] at hbytes
        have hbegins := Utf8.encoded_begins hencoded
        rw [← hbytes.1, hfront x List.mem_cons_self] at hbegins
        cases hbegins

theorem SpelledText.of_unescape? (hraw : IsTextBody raw)
    (h : unescape? raw = some (Utf8.encode cs)) : SpelledText cs raw := by
  induction cs generalizing raw with
  | nil =>
      rcases unescape?_cases hraw h with ⟨rfl, _⟩ | ⟨_, _, _, _, hbytes, _⟩ |
        ⟨c, _, _, _, _, hbytes, _⟩
      · exact .nil
      · cases hbytes
      · exact absurd (List.append_eq_nil_iff.mp hbytes.symm).1 String.utf8EncodeChar_ne_nil
  | cons c cs ih =>
      rw [Utf8.encode_cons] at h
      rcases unescape?_cases hraw h with ⟨_, hbytes⟩ |
        ⟨b, rest, later, rfl, hbytes, hplain, hrest, hlater⟩ |
        ⟨d, front, rest, later, rfl, hbytes, hchar, hrest, hlater⟩
      · exact absurd (List.append_eq_nil_iff.mp hbytes).1 String.utf8EncodeChar_ne_nil
      · obtain ⟨first, tail, hencoded⟩ :=
          List.exists_cons_of_ne_nil (String.utf8EncodeChar_ne_nil (c := c))
        rw [hencoded, List.cons_append, List.cons.injEq] at hbytes
        obtain ⟨rfl, rfl⟩ := hbytes
        obtain ⟨rest', rfl, hrest', hlater'⟩ :=
          unescape?_continuation (Utf8.isContinuation_of_mem_tail hencoded) hrest hlater
        exact .cons (.of_first hencoded hplain.1 hplain.2.1 hplain.2.2) (ih hrest' hlater')
      · obtain ⟨rfl, rfl⟩ := Utf8.encoded_append_inj hbytes
        exact .cons hchar (ih hrest hlater)

/-- A text is decoded to the characters that its bytes spell. -/
theorem readText?_eq_some_iff {s : String} (hraw : IsTextBody raw) :
    readText? raw = some s ↔ SpelledText s.toList raw := by
  simp only [readText?, Option.bind_eq_bind, Option.bind_eq_some_iff, Utf8.toString?_eq_some_iff]
  constructor
  · rintro ⟨bytes, h, rfl⟩
    exact .of_unescape? hraw h
  · intro h
    exact ⟨Utf8.ofString s, h.unescape?_eq, rfl⟩

/-- The same bytes do not spell two texts. -/
theorem SpelledText.unique {cs' : List Char} (h : SpelledText cs raw) (h' : SpelledText cs' raw) :
    cs = cs' := by
  have hbytes : Utf8.encode cs = Utf8.encode cs' :=
    Option.some.inj (h.unescape?_eq.symm.trans h'.unescape?_eq)
  have hread := Utf8.decode?_eq_some_iff.mpr hbytes
  rw [Utf8.decode?_eq_some_iff.mpr rfl] at hread
  exact Option.some.inj hread

end WorkloadIdentity.Json
