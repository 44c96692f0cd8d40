import WorkloadIdentity.Text.Composition

/-!
The composed form of a text. Characters that take part in no composition are all kept, since taking
apart leaves them alone, sorting only moves characters, and putting together takes only those that
compose. Blanks and controls of ASCII are such characters.
-/

namespace WorkloadIdentity.Text

variable {c d base : Char} {cs rest passed : List Char}

/-! ### Order -/

theorem place_perm (c : Char) (cs : List Char) : (place c cs).Perm (c :: cs) := by
  induction cs with
  | nil => exact List.Perm.refl _
  | cons d rest ih =>
      unfold place
      split
      · exact (ih.cons d).trans (List.Perm.swap c d rest)
      · exact List.Perm.refl _

/-- Sorting the marks only moves them. -/
theorem reorder_perm (cs : List Char) : (reorder cs).Perm cs := by
  induction cs with
  | nil => exact List.Perm.refl _
  | cons c rest ih => exact (place_perm c (reorder rest)).trans (ih.cons c)

/-! ### Characters on their own -/

/-- A character that is put together from nothing and with nothing. -/
structure StandsAlone (c : Char) : Prop where
  whole : parts? c.toNat = none
  base : ∀ mark, composed? c.toNat mark = none
  mark : ∀ base, composed? base c.toNat = none

theorem mem_decompose (h : StandsAlone c) : c ∈ decompose c := by
  simp only [decompose, h.whole, List.mem_singleton]

/-- What stands alone is left over, whether it is the base, has been passed or is yet to come. -/
theorem mem_composeOnto (h : StandsAlone c) (hc : c = base ∨ c ∈ passed ∨ c ∈ rest) :
    c ∈ composeOnto base passed rest := by
  induction rest generalizing base passed with
  | nil =>
      simp only [composeOnto, List.mem_cons, List.mem_reverse]
      simpa using hc
  | cons d rest ih =>
      unfold composeOnto
      split
      · next whole hwhole =>
          have hcomposed : composed? base.toNat d.toNat = some whole := by
            split at hwhole
            · cases hwhole
            · exact hwhole
          apply ih
          rcases hc with rfl | hpassed | hrest
          · rw [h.base] at hcomposed
            cases hcomposed
          · exact Or.inr (Or.inl hpassed)
          · rcases List.mem_cons.mp hrest with rfl | hrest
            · rw [h.mark] at hcomposed
              cases hcomposed
            · exact Or.inr (Or.inr hrest)
      · split
        · simp only [List.mem_cons, List.cons_append, List.mem_append, List.mem_reverse]
          rcases hc with rfl | hpassed | hrest
          · exact Or.inl rfl
          · exact Or.inr (Or.inl hpassed)
          · rcases List.mem_cons.mp hrest with hd | hrest
            · exact Or.inr (Or.inr (ih (Or.inl hd)))
            · exact Or.inr (Or.inr (ih (Or.inr (Or.inr hrest))))
        · apply ih
          rcases hc with hbase | hpassed | hrest
          · exact Or.inl hbase
          · exact Or.inr (Or.inl (List.mem_cons_of_mem _ hpassed))
          · rcases List.mem_cons.mp hrest with rfl | hrest
            · exact Or.inr (Or.inl List.mem_cons_self)
            · exact Or.inr (Or.inr hrest)

theorem mem_compose (h : StandsAlone c) (hc : c ∈ cs) : c ∈ compose cs := by
  induction cs with
  | nil => cases hc
  | cons d rest ih =>
      unfold compose
      split
      · rcases List.mem_cons.mp hc with hd | hrest
        · exact mem_composeOnto h (Or.inl hd)
        · exact mem_composeOnto h (Or.inr (Or.inr hrest))
      · rcases List.mem_cons.mp hc with rfl | hrest
        · exact List.mem_cons_self
        · exact List.mem_cons_of_mem _ (ih hrest)

/-- The composed form keeps what stands alone. -/
theorem mem_normalize (h : StandsAlone c) (hc : c ∈ cs) : c ∈ normalize cs := by
  apply mem_compose h
  rw [(reorder_perm _).mem_iff]
  exact List.mem_flatMap.mpr ⟨c, hc, mem_decompose h⟩

private theorem bases_above : compositions.all
    (fun (_, pairs) => pairs.all fun (base, _) => 0x20 < base) = true := by
  decide +kernel

theorem standsAlone_of_le (h : c.toNat ≤ 0x20) : StandsAlone c where
  whole := if_pos (by omega)
  mark _ := if_pos (by omega)
  base mark := by
    unfold composed?
    split
    · rfl
    · have hsyllable : syllable? c.toNat mark = none := by
        simp only [syllable?, Bool.and_eq_true, decide_eq_true_eq]
        rw [if_neg (by omega), if_neg (by omega)]
      rw [hsyllable]
      simp only [Option.orElse_eq_orElse, Option.orElse_eq_or, Option.none_or]
      cases hfind : compositions.find? (·.1 == mark) with
      | none => rfl
      | some found =>
          obtain ⟨_, pairs⟩ := found
          have habove := List.all_eq_true.mp bases_above _ (List.mem_of_find?_eq_some hfind)
          have hnone : pairs.find? (·.1 == c.toNat) = none := by
            rw [List.find?_eq_none]
            intro pair hpair
            have hlow := List.all_eq_true.mp habove pair hpair
            simp only [decide_eq_true_eq] at hlow
            simp only [beq_iff_eq]
            omega
          simp only [hnone, Option.bind_eq_bind, Option.bind_some, Option.bind_none]

end WorkloadIdentity.Text
