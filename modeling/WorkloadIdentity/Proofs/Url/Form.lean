import WorkloadIdentity.Proofs.Text.Parts
import WorkloadIdentity.Proofs.Text.Utf8
import WorkloadIdentity.Proofs.Url.Host

/-!
The form encoding and its two readers. A reader of forms gets back the bytes that were written. A
reader of paths undoes the escapes as well, but to it a plus sign is no space, so it gets a plus
sign for every space that was written.
-/

namespace WorkloadIdentity.Url

variable {b : UInt8} {c d : Char} {cs ds rest : List Char}

/-! ### One byte -/

/-- What holds of every byte can be tried out. -/
theorem of_bytes {P : UInt8 → Prop} (h : ∀ n < 256, P (UInt8.ofNat n)) (b : UInt8) : P b := by
  have hb := h b.toNat b.toNat_lt
  rwa [UInt8.ofNat_toNat] at hb

theorem hexValue?_upperHex {n : Nat} (h : n < 16) : hexValue? (upperHex n) = some n := by
  have hall : ∀ n < 16, hexValue? (upperHex n) = some n := by decide
  exact hall n h

theorem escaped?_upperHex (b : UInt8) :
    escaped? (upperHex (b.toNat / 16)) (upperHex (b.toNat % 16)) = some b := by
  have hb := b.toNat_lt
  have hhigh : b.toNat / 16 < 16 := by omega
  have hlow : b.toNat % 16 < 16 := by omega
  have hsum : b.toNat / 16 * 16 + b.toNat % 16 = b.toNat := by omega
  rw [escaped?, hexValue?_upperHex hhigh, hexValue?_upperHex hlow]
  show some (UInt8.ofNat (b.toNat / 16 * 16 + b.toNat % 16)) = some b
  rw [hsum, UInt8.ofNat_toNat]

/-- A byte that the encoding leaves as it is belongs to a character that means nothing else to a
reader. -/
theorem plain_of_isFormPlain (h : isFormPlain b = true) :
    String.utf8EncodeChar (Char.ofNat b.toNat) = [b] ∧ Char.ofNat b.toNat ≠ '%' ∧
      Char.ofNat b.toNat ≠ '+' :=
  of_bytes (P := fun b => isFormPlain b = true →
    String.utf8EncodeChar (Char.ofNat b.toNat) = [b] ∧ Char.ofNat b.toNat ≠ '%' ∧
      Char.ofNat b.toNat ≠ '+') (by decide +kernel) b h

theorem decode_escape (b : UInt8) (rest : List Char) :
    decode (escape b ++ rest) = b :: decode rest := by
  simp only [escape, List.cons_append, List.nil_append, decode, escaped?_upperHex]

/-- Whoever reads escapes gets a byte back that is no space. -/
theorem decode_formByte (hb : b ≠ 0x20) (rest : List Char) :
    decode (formByte b ++ rest) = b :: decode rest := by
  unfold formByte
  split
  · next hplain =>
      obtain ⟨hself, hpercent, _⟩ := plain_of_isFormPlain hplain
      rw [List.singleton_append, decode_cons_of_ne hpercent, hself]
      rfl
  · rw [if_neg (by simpa using hb)]
    exact decode_escape b rest

/-- A space is the only byte that is written with a plus sign. -/
theorem plus_not_mem_formByte (hb : b ≠ 0x20) : '+' ∉ formByte b :=
  of_bytes (P := fun b => b ≠ 0x20 → '+' ∉ formByte b) (by decide +kernel) b hb

/-! ### Texts -/

/-- Bytes without a space are read back by either reader, whatever is written behind them. -/
theorem decode_flatMap_formByte {bs : Bytes} (h : 0x20 ∉ bs) (rest : List Char) :
    decode (bs.flatMap formByte ++ rest) = bs ++ decode rest := by
  induction bs with
  | nil => rfl
  | cons b bs ih =>
      obtain ⟨hb, hbs⟩ := not_or.mp (List.mem_cons.not.mp h)
      rw [List.flatMap_cons, List.append_assoc, decode_formByte (Ne.symm hb), ih hbs,
        List.cons_append]

/-- A reader of paths gets a plus sign for every space, and everything else as it was written. -/
theorem decode_formEncode (cs : List Char) :
    decode (formEncode cs) = Utf8.encode (Text.remark ' ' '+' cs) := by
  induction cs with
  | nil => rfl
  | cons c cs ih =>
      have hencode : formEncode (c :: cs) =
          (String.utf8EncodeChar c).flatMap formByte ++ formEncode cs := by
        rw [formEncode, Utf8.encode_cons, List.flatMap_append, formEncode]
      have hremark : Text.remark ' ' '+' (c :: cs) =
          (if c = ' ' then '+' else c) :: Text.remark ' ' '+' cs := rfl
      rw [hencode, hremark, Utf8.encode_cons, ← ih]
      split
      · next hspace =>
          subst hspace
          exact decode_cons_of_ne (by decide)
      · next hspace =>
          apply decode_flatMap_formByte
          intro hmem
          have hc : 0x20 ∈ Utf8.encode [c] := by simpa [Utf8.encode] using hmem
          exact hspace (List.mem_singleton.mp
            ((Utf8.mem_encode_iff_of_ascii (show ' '.toNat < 0x80 by decide)).mp hc)).symm

/-- So what it gets is what was written if and only if there is no space in it. -/
theorem decode_formEncode_eq_iff : decode (formEncode cs) = Utf8.encode cs ↔ ' ' ∉ cs := by
  rw [decode_formEncode, ← Text.remark_eq_self_iff (show '+' ≠ ' ' by decide)]
  exact ⟨Utf8.encode_inj, congrArg Utf8.encode⟩

/-- A reader of forms gets back what was written. -/
theorem formDecode_formEncode (cs : List Char) : formDecode (formEncode cs) = Utf8.encode cs := by
  unfold formEncode formDecode
  induction Utf8.encode cs with
  | nil => rfl
  | cons b bs ih =>
      rw [List.flatMap_cons, List.map_append]
      by_cases hb : b = 0x20
      · subst hb
        exact (decode_cons_of_ne (by decide)).trans (congrArg (List.cons 0x20) ih)
      · have hkept (c : Char) (hc : c ∈ formByte b) : (if c == '+' then ' ' else c) = c := by
          rw [if_neg]
          intro hplus
          exact plus_not_mem_formByte hb (eq_of_beq hplus ▸ hc)
        rw [List.map_congr_left hkept, List.map_id', decode_formByte hb, ih]

theorem formEncode_inj (h : formEncode cs = formEncode ds) : cs = ds := by
  apply Utf8.encode_inj
  rw [← formDecode_formEncode, h, formDecode_formEncode]

/-- The characters that the form encoding is made of. -/
def isFormChar (c : Char) : Bool :=
  c.isAlphanum || ['*', '-', '.', '_', '+', '%'].contains c

theorem isFormChar_of_mem (h : c ∈ formEncode cs) : isFormChar c = true := by
  obtain ⟨b, _, hc⟩ := List.mem_flatMap.mp h
  have hall : (formByte b).all isFormChar = true :=
    of_bytes (P := fun b => (formByte b).all isFormChar = true) (by decide +kernel) b
  exact List.all_eq_true.mp hall c hc

theorem not_mem_formEncode (hd : isFormChar d = false) : d ∉ formEncode cs := by
  intro h
  rw [isFormChar_of_mem h] at hd
  cases hd

theorem isBlank_of_mem_formEncode (h : c ∈ formEncode cs) : Text.isBlank c = false := by
  obtain ⟨b, _, hc⟩ := List.mem_flatMap.mp h
  have hall : (formByte b).all (!Text.isBlank ·) = true :=
    of_bytes (P := fun b => (formByte b).all (!Text.isBlank ·) = true) (by decide +kernel) b
  simpa using List.all_eq_true.mp hall c hc

/-! ### Whole forms -/

/-- The text that a part of a form stands for. -/
def readPart (cs : List Char) : String := Utf8.toStringLossy (formDecode cs)

/-- The pairs that a form stands for: it is cut at each ampersand, empty parts do not count, and
each part is cut at its first equals sign. -/
def readForm (cs : List Char) : List (String × String) :=
  ((Text.splitOn '&' cs).filter (!·.isEmpty)).map fun part =>
    (readPart (part.takeWhile (· != '=')), readPart ((part.dropWhile (· != '=')).drop 1))

theorem readPart_formEncode (text : String) : readPart (formEncode text.toList) = text := by
  rw [readPart, formDecode_formEncode, Utf8.toStringLossy, Utf8.decodeLossy_encode,
    String.ofList_toList]

/-- The first equals sign of a pair is the one between the name and the value. -/
theorem formPair_cut (name value : List Char) :
    (formPair name value).takeWhile (· != '=') = formEncode name ∧
      (formPair name value).dropWhile (· != '=') = '=' :: formEncode value := by
  have hname : ∀ c ∈ formEncode name, (c != '=') = true := by
    intro c hc
    rw [bne_iff_ne]
    exact ne_of_mem_of_not_mem hc (not_mem_formEncode (by decide))
  constructor
  · rw [formPair, List.takeWhile_append_of_pos hname, List.takeWhile_cons_of_neg (by decide),
      List.append_nil]
  · rw [formPair, List.dropWhile_append_of_pos hname, List.dropWhile_cons_of_neg (by decide)]

theorem ampersand_not_mem_formPair (name value : List Char) : '&' ∉ formPair name value := by
  have hplain (cs : List Char) : '&' ∉ formEncode cs := not_mem_formEncode (by decide)
  simp [formPair, hplain]

/-- Pairs are read back from the form that they are written in. -/
theorem readForm_join (pairs : List (String × String)) :
    readForm (Text.join ['&'] (pairs.map fun (name, value) =>
      formPair name.toList value.toList)) = pairs := by
  by_cases hpairs : pairs = []
  · subst hpairs
    rfl
  · have hparts : ∀ part ∈ pairs.map fun (name, value) => formPair name.toList value.toList,
        '&' ∉ part ∧ part ≠ [] := by
      intro part hpart
      obtain ⟨⟨name, value⟩, -, rfl⟩ := List.mem_map.mp hpart
      exact ⟨ampersand_not_mem_formPair _ _, by simp [formPair]⟩
    have hfilter : (pairs.map fun (name, value) => formPair name.toList value.toList).filter
        (!·.isEmpty) = pairs.map fun (name, value) => formPair name.toList value.toList := by
      rw [List.filter_eq_self]
      intro part hpart
      simp [(hparts part hpart).2]
    rw [readForm, Text.join_eq_intercalate, Text.splitOn_intercalate (by simpa using hpairs)
      fun part hpart => (hparts part hpart).1, hfilter, List.map_map]
    apply List.map_id''
    rintro ⟨name, value⟩
    obtain ⟨htake, hdrop⟩ := formPair_cut name.toList value.toList
    simp only [Function.comp_apply, htake, hdrop, List.drop_succ_cons, List.drop_zero,
      readPart_formEncode]

end WorkloadIdentity.Url
