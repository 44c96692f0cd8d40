import WorkloadIdentity.Proofs.Fallible
import WorkloadIdentity.Proofs.Text.Composition
import WorkloadIdentity.Proofs.Text.Utf8
import WorkloadIdentity.Text.Blank
import WorkloadIdentity.Url.Parser

/-!
Characters that no host has. A text that is a host is none any more with a blank or a control behind
it: inside brackets it has to end with one, and in a name the character survives the decoding and is
then refused or mapped to a space, which is refused in its turn.
-/

namespace WorkloadIdentity.Url

variable {c : Char} {cs more rest : List Char}

/-! ### Blanks and controls -/

/-- Characters that are dropped from the ends of a text by one reader or another. -/
def isMargin (c : Char) : Bool := isEdge c || Text.isBlank c

/-- Blanks beyond ASCII. -/
def wideBlanks : List Nat :=
  [0x85, 0xA0, 0x1680] ++ List.range' 0x2000 11 ++ [0x2028, 0x2029, 0x202F, 0x205F, 0x3000]

theorem isMargin_cases (h : isMargin c = true) : c.toNat ≤ 0x20 ∨ c.toNat ∈ wideBlanks := by
  simp only [isMargin, isEdge, Text.isBlank, Bool.or_eq_true, Bool.and_eq_true, decide_eq_true_eq,
    beq_iff_eq] at h
  by_cases hlow : c.toNat ≤ 0x20
  · exact Or.inl hlow
  · apply Or.inr
    simp only [wideBlanks, List.mem_append, List.mem_cons, List.not_mem_nil, or_false,
      List.mem_range'_1]
    omega

/-- A margin is no printable character of ASCII. -/
theorem isMargin_toNat (h : isMargin c = true) : c.toNat ≤ 0x20 ∨ 0x7F < c.toNat := by
  rcases isMargin_cases h with hlow | hwide
  · exact Or.inl hlow
  · apply Or.inr
    have hall : ∀ n ∈ wideBlanks, 0x7F < n := by decide
    exact hall _ hwide

theorem ne_of_isMargin {d : Char} (h : isMargin c = true) (hd : isMargin d = false) : c ≠ d := by
  rintro rfl
  rw [h] at hd
  cases hd

theorem hexValue?_of_isMargin (h : isMargin c = true) : hexValue? c = none := by
  have hrange := isMargin_toNat h
  simp only [hexValue?, Bool.and_eq_true, decide_eq_true_eq]
  rw [if_neg (by omega), if_neg (by omega), if_neg (by omega)]

theorem isDigit_of_isMargin (h : isMargin c = true) : ('0' ≤ c && c ≤ '9') = false := by
  have hrange := isMargin_toNat h
  simp only [Bool.and_eq_false_imp, decide_eq_true_eq, decide_eq_false_iff_not]
  intro hlow hhigh
  have hfrom : 0x30 ≤ c.toNat := hlow
  have hupto : c.toNat ≤ 0x39 := hhigh
  omega

theorem toLower_of_isMargin (h : isMargin c = true) : c.toLower = c := by
  have hrange := isMargin_toNat h
  have hupper : ¬(c.val ≥ 'A'.val ∧ c.val ≤ 'Z'.val) := by
    rintro ⟨hfrom, hupto⟩
    have hfrom : 0x41 ≤ c.toNat := hfrom
    have hupto : c.toNat ≤ 0x5A := hupto
    omega
  exact dif_neg hupper

/-- A character of a scheme is a printable one of ASCII. -/
theorem range_of_isSchemeChar (h : isSchemeChar c = true) : 0x20 < c.toNat ∧ c.toNat ≤ 0x7F := by
  simp only [isSchemeChar, isAsciiAlpha, Bool.or_eq_true, Bool.and_eq_true, decide_eq_true_eq,
    beq_iff_eq] at h
  rcases h with ((((⟨hfrom, hupto⟩ | ⟨hfrom, hupto⟩) | ⟨hfrom, hupto⟩) | rfl) | rfl) | rfl
  · have hfrom : 0x61 ≤ c.toNat := hfrom
    have hupto : c.toNat ≤ 0x7A := hupto
    omega
  · have hfrom : 0x41 ≤ c.toNat := hfrom
    have hupto : c.toNat ≤ 0x5A := hupto
    omega
  · have hfrom : 0x30 ≤ c.toNat := hfrom
    have hupto : c.toNat ≤ 0x39 := hupto
    omega
  all_goals decide

theorem isSchemeChar_of_isMargin (h : isMargin c = true) : isSchemeChar c = false := by
  rw [Bool.eq_false_iff]
  intro hscheme
  have hprintable := range_of_isSchemeChar hscheme
  have hrange := isMargin_toNat h
  omega

theorem endsAuthority_of_isMargin (h : isMargin c = true) : endsAuthority true c = false := by
  simp only [endsAuthority, isSlash, Bool.true_and, Bool.or_eq_false_iff, beq_eq_false_iff_ne]
  exact ⟨⟨⟨ne_of_isMargin h (by decide), ne_of_isMargin h (by decide)⟩,
    ne_of_isMargin h (by decide)⟩, ne_of_isMargin h (by decide)⟩

theorem isSlash_of_not_ends (h : endsAuthority true c = false) : isSlash true c = false := by
  simp only [endsAuthority, Bool.or_eq_false_iff] at h
  exact h.1.1

/-- What a margin stands for has a blank or a control of ASCII in it. -/
theorem exists_le_of_isMargin {form : List Char} (h : isMargin c = true)
    (hform : Domain.mapChar? c = some form) : ∃ d ∈ form, d.toNat ≤ 0x20 := by
  rcases isMargin_cases h with hlow | hwide
  · have hascii : c.toNat < 0x80 := by omega
    simp only [Domain.mapChar?, if_pos hascii, Option.some.injEq, toLower_of_isMargin h] at hform
    subst hform
    exact ⟨c, List.mem_singleton_self c, hlow⟩
  · have hall : ∀ n ∈ wideBlanks,
        (Domain.mapChar? (Char.ofNat n)).all (·.any (·.toNat ≤ 0x20)) = true := by
      decide +kernel
    have hc := hall _ hwide
    rw [Char.ofNat_toNat, hform] at hc
    simpa using hc

/-- No name has a margin in it. The blank or control that it stands for composes with nothing, so
composing the name keeps it. -/
theorem domain_ne_ok_of_mem {name : List Char} (h : isMargin c = true) (hc : c ∈ cs) :
    Domain.parse cs ≠ .ok name := by
  intro hname
  unfold Domain.parse at hname
  split at hname
  · cases hname
  · next parts hparts =>
      obtain ⟨form, hpart, hform⟩ := exists_of_mem hparts hc
      obtain ⟨d, hd, hlow⟩ := exists_le_of_isMargin h hform
      have hkept : d ∈ Text.normalize parts.flatten :=
        Text.mem_normalize (Text.standsAlone_of_le hlow) (List.mem_flatten_of_mem hpart hd)
      have hforbidden : (Text.normalize parts.flatten).any Domain.isForbidden = true := by
        simp only [List.any_eq_true]
        exact ⟨d, hkept, by simp [Domain.isForbidden, hlow]⟩
      dsimp only at hname
      rw [if_pos hforbidden] at hname
      cases hname

/-! ### Escapes -/

theorem decode_cons_of_ne (h : c ≠ '%') :
    decode (c :: rest) = String.utf8EncodeChar c ++ decode rest := by
  rw [decode]
  intro a b tail hc
  exact absurd hc h

private theorem decode_percent (h : ∀ a b tail, rest = a :: b :: tail → escaped? a b = none) :
    decode ('%' :: rest) = String.utf8EncodeChar '%' ++ decode rest := by
  match rest with
  | [] => rfl
  | [_] => rfl
  | a :: b :: tail => simp only [decode, h a b tail rfl]

private theorem escaped?_right {a : Char} (h : hexValue? c = none) : escaped? a c = none := by
  cases ha : hexValue? a with
  | none => simp [escaped?, ha]
  | some _ => simp [escaped?, ha, h]

/-- A character that is no digit and no percent sign stands for itself wherever it is. -/
theorem decode_append_cons (hhex : hexValue? c = none) (hpercent : c ≠ '%') :
    decode (cs ++ c :: more) = decode cs ++ String.utf8EncodeChar c ++ decode more := by
  fun_induction decode cs with
  | case1 a b rest byte hbyte ih => simp only [List.cons_append, decode, hbyte, ih]
  | case2 a b rest hnone ih =>
      rw [List.cons_append, List.cons_append, List.cons_append, decode_percent, ← List.cons_append,
        ← List.cons_append, ih]
      · simp only [List.append_assoc]
      · rintro _ _ _ ⟨⟩
        exact hnone
  | case3 d rest hshort ih =>
      by_cases hd : d = '%'
      · subst hd
        rw [List.cons_append, decode_percent, ih]
        · simp only [List.append_assoc]
        · intro a b tail htail
          match rest with
          | [] =>
              cases htail
              simp [escaped?, hhex]
          | [_] =>
              cases htail
              exact escaped?_right hhex
          | a :: b :: tail => exact absurd rfl (hshort a b tail rfl)
      · rw [List.cons_append, decode_cons_of_ne hd, ih]
        simp only [List.append_assoc]
  | case4 => simp only [List.nil_append, decode_cons_of_ne hpercent]

/-! ### Hosts -/

/-- What has a margin behind it is no host. -/
theorem parseHost_append_ne_ok {host : Host} (hmore : more ≠ [])
    (hmargin : ∀ c ∈ more, isMargin c = true) : parseHost (cs ++ more) ≠ .ok host := by
  intro h
  unfold parseHost at h
  split at h
  · have hlast : ((cs ++ more).getLast? == some ']') = false := by
      rw [List.getLast?_append, List.getLast?_eq_some_getLast hmore, Option.some_or,
        beq_eq_false_iff_ne]
      intro hbracket
      have hmem : ']' ∈ more := Option.some.inj hbracket ▸ List.getLast_mem hmore
      exact absurd (hmargin _ hmem) (by decide)
    simp only [bracketed, hlast, Bool.false_eq_true, if_false] at h
    cases h
  · obtain ⟨c, rest, rfl⟩ := List.exists_cons_of_ne_nil hmore
    have hc : isMargin c = true := hmargin c List.mem_cons_self
    rw [decode_append_cons (hexValue?_of_isMargin hc) (ne_of_isMargin hc (by decide))] at h
    split at h
    · cases h
    · next text htext =>
        have hmem : c ∈ text := Utf8.mem_of_decode? htext
        cases hname : Domain.parse text with
        | error fault =>
            rw [hname] at h
            cases h
        | ok name => exact domain_ne_ok_of_mem hc hmem hname

end WorkloadIdentity.Url
