import WorkloadIdentity.Text.Decimal

/-!
Numbers in decimal digits, read back. Digits are read exactly if they are digits and their value
fits the range, so the digits that a number is written in give the number again.
-/

namespace WorkloadIdentity.Text

variable {max acc n : Nat} {c : Char} {cs : List Char}

/-! ### Digits -/

theorem digit?_eq_some_iff {d : Nat} :
    digit? c = some d ↔ c.isDigit = true ∧ c.toNat - '0'.toNat = d := by
  have hrange : ('0' ≤ c && c ≤ '9') = c.isDigit := rfl
  unfold digit?
  rw [hrange]
  split
  · next h => simp [h]
  · next h => simp [h]

theorem digit?_eq_none_iff : digit? c = none ↔ c.isDigit = false := by
  have hrange : ('0' ≤ c && c ≤ '9') = c.isDigit := rfl
  unfold digit?
  rw [hrange]
  split
  · next h => simp [h]
  · next h => simpa using h

/-- Further digits only make a value larger. -/
theorem le_ofDigitChars : acc ≤ Nat.ofDigitChars 10 cs acc := by
  induction cs generalizing acc with
  | nil => exact Nat.le_refl acc
  | cons c cs ih =>
      rw [Nat.ofDigitChars_cons]
      exact Nat.le_trans (by omega) ih

theorem readDigits_ok_iff (h : acc ≤ max) :
    readDigits max acc cs = .ok n ↔
      (∀ c ∈ cs, c.isDigit = true) ∧ Nat.ofDigitChars 10 cs acc = n ∧ n ≤ max := by
  induction cs generalizing acc with
  | nil =>
      constructor
      · rintro ⟨⟩
        exact ⟨fun _ hc => absurd hc List.not_mem_nil, rfl, h⟩
      · rintro ⟨_, rfl, _⟩
        rfl
  | cons c cs ih =>
      rw [readDigits, List.forall_mem_cons, Nat.ofDigitChars_cons]
      cases hdigit : digit? c with
      | none =>
          rw [digit?_eq_none_iff.mp hdigit]
          exact ⟨nofun, fun hall => Bool.noConfusion hall.1.1⟩
      | some d =>
          obtain ⟨hc, rfl⟩ := digit?_eq_some_iff.mp hdigit
          dsimp only
          split
          · next hfits => rw [ih hfits, hc, eq_self, true_and]
          · next hover =>
              constructor
              · exact nofun
              · rintro ⟨_, rfl, hmax⟩
                exact absurd (Nat.le_trans le_ofDigitChars hmax) hover

/-! ### Numbers -/

/-- The text is a number: digits, of which there is at least one, and maybe a plus sign before
them. -/
def IsNumeral (cs : List Char) (n : Nat) : Prop :=
  ∃ ds, (cs = ds ∨ cs = '+' :: ds) ∧ ds ≠ [] ∧ (∀ c ∈ ds, c.isDigit = true) ∧
    Nat.ofDigitChars 10 ds 0 = n

theorem IsNumeral.ne_nil (h : IsNumeral cs n) : cs ≠ [] := by
  obtain ⟨ds, rfl | rfl, hne, -⟩ := h
  · exact hne
  · exact List.cons_ne_nil '+' ds

/-- The numbers that are read are those within the range. -/
theorem readNat_ok_iff : readNat max cs = .ok n ↔ IsNumeral cs n ∧ n ≤ max := by
  unfold readNat
  split
  · exact ⟨nofun, fun h => absurd rfl h.1.ne_nil⟩
  · refine ⟨nofun, ?_⟩
    rintro ⟨⟨ds, hsign, hne, hdigits, -⟩, -⟩
    rcases hsign with rfl | hsign
    · cases hdigits '+' (by simp)
    · exact absurd (List.cons.inj hsign).2.symm hne
  · next rest hrest =>
      rw [readDigits_ok_iff (Nat.zero_le max)]
      constructor
      · rintro ⟨hdigits, hvalue, hmax⟩
        exact ⟨⟨rest, Or.inr rfl, hrest, hdigits, hvalue⟩, hmax⟩
      · rintro ⟨⟨ds, hsign, -, hdigits, hvalue⟩, hmax⟩
        rcases hsign with rfl | hsign
        · cases hdigits '+' List.mem_cons_self
        · obtain rfl := (List.cons.inj hsign).2
          exact ⟨hdigits, hvalue, hmax⟩
  · next hne _ hplus =>
      rw [readDigits_ok_iff (Nat.zero_le max)]
      constructor
      · rintro ⟨hdigits, hvalue, hmax⟩
        exact ⟨⟨cs, Or.inl rfl, hne, hdigits, hvalue⟩, hmax⟩
      · rintro ⟨⟨ds, rfl | rfl, -, hdigits, hvalue⟩, hmax⟩
        · exact ⟨hdigits, hvalue, hmax⟩
        · exact absurd rfl (hplus ds)

theorem isDigit_of_mem_digits (h : c ∈ digits n) : c.isDigit = true :=
  Nat.isDigit_of_mem_toDigits (by decide) (by decide) h

theorem digits_ne_nil : digits n ≠ [] := Nat.toDigits_ne_nil

theorem isNumeral_digits (n : Nat) : IsNumeral (digits n) n :=
  ⟨digits n, Or.inl rfl, digits_ne_nil, fun _ hc => isDigit_of_mem_digits hc,
    Nat.ofDigitChars_toDigits (by decide) (by decide)⟩

end WorkloadIdentity.Text
