import Mathlib.Data.List.Basic
import Mathlib.Data.List.TakeWhile
import WorkloadIdentity.Proofs.Text.Utf8

/-!
Bytes that are no text, mended. An ill-formed part ends in front of the next ASCII byte at the
latest, so ASCII bytes stay what they are and where they are, and a text is mended run by run
between them. A run of other bytes becomes a run of other bytes, which is not empty. So nobody who
looks for ASCII alone can tell the mended text from the bytes that it comes from.
-/

namespace WorkloadIdentity.Utf8

variable {b : UInt8} {bs front rest : Bytes}

/-- The bytes of the text that is read with a replacement character for each ill-formed part. -/
def mend (bs : Bytes) : Bytes := encode (decodeLossy bs)

theorem ofString_toStringLossy (bs : Bytes) : ofString (toStringLossy bs) = mend bs := by
  rw [ofString, toStringLossy, String.toList_ofList, mend]

/-! ### The first piece -/

/-- How many bytes a piece takes up. -/
def Piece.size : Piece → Nat
  | .char _ n => n
  | .broken n => n

/-- What is written for a piece. -/
def Piece.mended : Piece → Bytes
  | .char c _ => String.utf8EncodeChar c
  | .broken _ => String.utf8EncodeChar replacement

theorem Piece.mended_ne_nil (p : Piece) : p.mended ≠ [] := by
  cases p with
  | char c n => exact String.utf8EncodeChar_ne_nil
  | broken n => exact String.utf8EncodeChar_ne_nil (c := replacement)

/-- There is fuel for all pieces where there is some for each byte. -/
theorem pieces_congr {m n : Nat} (hm : bs.length ≤ m) (hn : bs.length ≤ n) :
    pieces m bs = pieces n bs := by
  induction m generalizing n bs with
  | zero =>
      rw [List.eq_nil_of_length_eq_zero (Nat.le_zero.mp hm)]
      cases n <;> rfl
  | succ m ih =>
      cases bs with
      | nil => cases n <;> rfl
      | cons b rest =>
          obtain ⟨k, rfl⟩ : ∃ k, n = k + 1 := ⟨n - 1, by simp at hn; omega⟩
          have hrest (skipped : Nat) :
              pieces m (rest.drop skipped) = pieces k (rest.drop skipped) := by
            apply ih
            · simp only [List.length_cons, List.length_drop] at hm ⊢
              omega
            · simp only [List.length_cons, List.length_drop] at hn ⊢
              omega
          simp only [pieces, hrest]

@[simp] theorem mend_nil : mend [] = [] := rfl

theorem mend_cons : mend (b :: rest) =
    (piece b rest).mended ++ mend (rest.drop ((piece b rest).size - 1)) := by
  have hfuel (skipped : Nat) : pieces rest.length (rest.drop skipped) =
      pieces (rest.drop skipped).length (rest.drop skipped) :=
    pieces_congr (by simp) (Nat.le_refl _)
  simp only [mend, decodeLossy, List.length_cons, pieces]
  cases piece b rest with
  | char c n => simp only [List.map_cons, encode_cons, hfuel, Piece.mended, Piece.size]
  | broken n => simp only [List.map_cons, encode_cons, hfuel, Piece.mended, Piece.size]

/-! ### ASCII bytes stay -/

/-- A text that does not go on with a byte of a longer character. -/
def BeginsPlain (rest : Bytes) : Prop := ∀ b ∈ rest.head?, b < 0x80

theorem beginsPlain_cons (h : b < 0x80) : BeginsPlain (b :: rest) := by
  intro c hc
  cases hc
  exact h

theorem continuation_append {acc seen more : Nat} {low high : UInt8} (hlow : 0x80 ≤ low)
    (h : BeginsPlain rest) :
    continuation acc low high seen more (front ++ rest) =
      continuation acc low high seen more front := by
  induction more generalizing acc seen low high front with
  | zero => rfl
  | succ more ih =>
      cases front with
      | cons x front =>
          simp only [List.cons_append, continuation, ih (by decide : (0x80 : UInt8) ≤ 0x80)]
      | nil =>
          cases rest with
          | nil => rfl
          | cons b rest =>
              have hbelow : ¬ low ≤ b := UInt8.not_le.mpr (UInt8.lt_of_lt_of_le (h b rfl) hlow)
              simp [continuation, hbelow]

theorem size_continuation_le {acc seen more : Nat} {low high : UInt8} :
    (continuation acc low high seen more front).size ≤ seen + front.length := by
  induction more generalizing acc seen low high front with
  | zero => exact Nat.le_add_right _ _
  | succ more ih =>
      cases front with
      | nil => exact Nat.le_add_right _ _
      | cons x front =>
          unfold continuation
          split
          · refine Nat.le_trans ih ?_
            rw [List.length_cons]
            omega
          · exact Nat.le_add_right _ _

/-- A piece never runs over a byte of ASCII. -/
theorem piece_append (h : BeginsPlain rest) : piece b (front ++ rest) = piece b front := by
  unfold piece
  split
  · rfl
  · split
    · rfl
    · next lead hlead => exact continuation_append (lead_range hlead).1 h

theorem size_piece_le : (piece b front).size ≤ front.length + 1 := by
  unfold piece
  split
  · exact Nat.le_add_left _ _
  · split
    · exact Nat.le_add_left _ _
    · rw [Nat.add_comm]
      exact size_continuation_le

/-- Texts are mended one by one where the later one begins with ASCII. -/
theorem mend_append (h : BeginsPlain rest) : mend (front ++ rest) = mend front ++ mend rest := by
  induction hlength : front.length using Nat.strongRecOn generalizing front with
  | ind n ih =>
      cases front with
      | nil => rfl
      | cons b front =>
          have hsize : (piece b front).size - 1 ≤ front.length := by
            have hle : (piece b front).size ≤ front.length + 1 := size_piece_le
            omega
          have hrest : mend (front.drop ((piece b front).size - 1) ++ rest) =
              mend (front.drop ((piece b front).size - 1)) ++ mend rest := by
            apply ih _ _ rfl
            rw [List.length_drop]
            rw [List.length_cons] at hlength
            omega
          rw [List.cons_append, mend_cons, mend_cons, piece_append h,
            List.drop_append_of_le_length hsize, hrest, List.append_assoc]

theorem mend_cons_of_plain (h : b < 0x80) : mend (b :: rest) = b :: mend rest := by
  have hpiece : piece b rest = .char (Char.ofNat b.toNat) 1 := if_pos h
  obtain ⟨tail, later, hencoded, _, hsize⟩ := encoded_of_piece hpiece
  have htail : tail = [] := List.eq_nil_of_length_eq_zero (by omega)
  rw [mend_cons, hpiece, Piece.mended, hencoded, htail]
  rfl

theorem mend_append_of_plain (h : ∀ b ∈ front, b < 0x80) :
    mend (front ++ rest) = front ++ mend rest := by
  induction front with
  | nil => rfl
  | cons b front ih =>
      rw [List.cons_append, mend_cons_of_plain (h b List.mem_cons_self),
        ih fun c hc => h c (List.mem_cons_of_mem _ hc), List.cons_append]

theorem plain_of_all (h : bs.all (· < 0x80) = true) : ∀ b ∈ bs, b < 0x80 := by
  simpa using h

theorem mend_of_plain (h : ∀ b ∈ bs, b < 0x80) : mend bs = bs := by
  have happend : mend (bs ++ []) = bs ++ mend [] := mend_append_of_plain h
  rwa [List.append_nil, mend_nil, List.append_nil] at happend

/-! ### Other bytes do not become ASCII -/

theorem mem_of_mem_mend (hb : b < 0x80) (h : b ∈ mend bs) : b ∈ bs := by
  induction hlength : bs.length using Nat.strongRecOn generalizing bs with
  | ind n ih =>
      cases bs with
      | nil => cases h
      | cons first rest =>
          have hlater (skipped : Nat) (hmem : b ∈ mend (rest.drop skipped)) : b ∈ rest := by
            apply (List.drop_suffix skipped rest).subset
            apply ih _ _ hmem rfl
            rw [List.length_drop]
            rw [List.length_cons] at hlength
            omega
          rw [mend_cons, List.mem_append] at h
          rcases h with h | h
          · cases hpiece : piece first rest with
            | char c n =>
                obtain ⟨tail, later, hencoded, rfl, _⟩ := encoded_of_piece hpiece
                rw [hpiece, Piece.mended, hencoded] at h
                exact (List.cons_subset_cons first (List.subset_append_left tail later)) h
            | broken n =>
                rw [hpiece] at h
                have hall : (String.utf8EncodeChar replacement).all (0x80 ≤ ·) = true := by decide
                have hbound : 0x80 ≤ b := by simpa using List.all_eq_true.mp hall b h
                exact absurd hb (UInt8.not_lt.mpr hbound)
          · exact List.mem_cons_of_mem _ (hlater _ h)

theorem mend_eq_nil_iff : mend bs = [] ↔ bs = [] := by
  refine ⟨fun h => ?_, fun h => by rw [h, mend_nil]⟩
  cases bs with
  | nil => rfl
  | cons b rest =>
      rw [mend_cons, List.append_eq_nil_iff] at h
      exact absurd h.1 (Piece.mended_ne_nil _)

/-- A run of bytes that are no ASCII becomes one. -/
theorem mend_of_wide (h : ∀ b ∈ bs, 0x80 ≤ b) : ∀ b ∈ mend bs, 0x80 ≤ b := by
  intro b hb
  by_contra hplain
  have hbelow := UInt8.not_le.mp hplain
  exact hplain (h b (mem_of_mem_mend hbelow hb))

/-- Bytes of characters outside ASCII, or of none. -/
def isWide (b : UInt8) : Bool := 0x80 ≤ b

/-- Bytes are single ones of ASCII and runs of others. -/
theorem runs_induction {P : Bytes → Prop} (nil : P [])
    (plain : ∀ b rest, b < 0x80 → P rest → P (b :: rest))
    (wide : ∀ run rest, run ≠ [] → (∀ b ∈ run, 0x80 ≤ b) → BeginsPlain rest → P rest →
      P (run ++ rest)) (bs : Bytes) : P bs := by
  induction hlength : bs.length using Nat.strongRecOn generalizing bs with
  | ind n ih =>
      cases bs with
      | nil => exact nil
      | cons b rest =>
          by_cases hb : b < 0x80
          · refine plain b rest hb (ih rest.length ?_ rest rfl)
            rw [← hlength, List.length_cons]
            omega
          · have hfirst : isWide b = true := decide_eq_true (UInt8.not_lt.mp hb)
            rw [← List.takeWhile_append_dropWhile (p := isWide) (l := b :: rest)]
            have hshort : ((b :: rest).dropWhile isWide).length < n := by
              rw [List.dropWhile_cons_of_pos hfirst, ← hlength, List.length_cons]
              exact Nat.lt_succ_of_le (List.dropWhile_suffix _).length_le
            refine wide _ _ ?_ ?_ ?_ (ih _ hshort _ rfl)
            · rw [List.takeWhile_cons_of_pos hfirst]
              exact List.cons_ne_nil _ _
            · intro c hc
              have hwide : isWide c = true := List.mem_takeWhile_imp hc
              exact of_decide_eq_true hwide
            · intro c hc
              have hstop := List.head?_dropWhile_not isWide (b :: rest)
              rw [hc] at hstop
              exact UInt8.not_le.mp (of_decide_eq_false hstop)

/-- The last byte is ASCII after mending only if it has been so before. -/
theorem getLast?_of_mend (hb : b < 0x80) (h : (mend bs).getLast? = some b) :
    bs.getLast? = some b := by
  induction bs using runs_induction with
  | nil => cases h
  | plain first rest hfirst ih =>
      rw [mend_cons_of_plain hfirst] at h
      by_cases hrest : rest = []
      · rw [hrest] at h ⊢
        exact h
      · rw [List.getLast?_cons_of_ne_nil (mt mend_eq_nil_iff.mp hrest)] at h
        rw [List.getLast?_cons_of_ne_nil hrest]
        exact ih h
  | wide run rest _ hrun hplain ih =>
      rw [mend_append hplain] at h
      by_cases hrest : rest = []
      · rw [hrest, mend_nil, List.append_nil] at h
        exact absurd hb (UInt8.not_lt.mpr (mend_of_wide hrun b (List.mem_of_getLast? h)))
      · rw [List.getLast?_append_of_ne_nil _ (mt mend_eq_nil_iff.mp hrest)] at h
        rw [List.getLast?_append_of_ne_nil _ hrest]
        exact ih h

/-! ### Looking for ASCII -/

theorem isPrefixOf_mend {mark : Bytes} (h : ∀ b ∈ mark, b < 0x80) :
    mark.isPrefixOf (mend bs) = mark.isPrefixOf bs := by
  induction mark generalizing bs with
  | nil => rfl
  | cons m mark ih =>
      have hm := h m List.mem_cons_self
      induction bs using runs_induction with
      | nil => rfl
      | plain b rest hb =>
          rw [mend_cons_of_plain hb, List.isPrefixOf_cons_cons, List.isPrefixOf_cons_cons,
            ih fun c hc => h c (List.mem_cons_of_mem _ hc)]
      | wide run rest hne hrun hplain =>
          have hother {wide later : Bytes} (hne : wide ≠ []) (hwide : ∀ b ∈ wide, 0x80 ≤ b) :
              (m :: mark).isPrefixOf (wide ++ later) = false := by
            obtain ⟨b, tail, rfl⟩ := List.exists_cons_of_ne_nil hne
            have hdiffers : (m == b) = false := by
              rw [beq_eq_false_iff_ne]
              rintro rfl
              exact absurd hm (UInt8.not_lt.mpr (hwide m List.mem_cons_self))
            rw [List.cons_append, List.isPrefixOf_cons_cons, hdiffers, Bool.false_and]
          rw [mend_append hplain, hother hne hrun,
            hother (mt mend_eq_nil_iff.mp hne) (mend_of_wide hrun)]

/-- Only a text of ASCII is mended to it. -/
theorem mend_eq_iff_of_plain {mark : Bytes} (h : ∀ b ∈ mark, b < 0x80) :
    mend bs = mark ↔ bs = mark := by
  refine ⟨fun hmend => ?_, fun heq => by rw [heq, mend_of_plain h]⟩
  have hprefix : mark.isPrefixOf bs = true := by
    rw [← isPrefixOf_mend h, hmend]
    exact List.isPrefixOf_iff_prefix.mpr (List.prefix_refl mark)
  obtain ⟨rest, rfl⟩ := List.isPrefixOf_iff_prefix.mp hprefix
  rw [mend_append_of_plain h, List.append_right_eq_self, mend_eq_nil_iff] at hmend
  rw [hmend, List.append_nil]

theorem exists_wide_mend (h : ∃ b ∈ bs, 0x80 ≤ b) : ∃ b ∈ mend bs, 0x80 ≤ b := by
  by_contra hnone
  have hplain : ∀ b ∈ mend bs, b < 0x80 := by
    intro b hb
    by_contra hwide
    exact hnone ⟨b, hb, UInt8.not_lt.mp hwide⟩
  obtain ⟨b, hb, hwide⟩ := h
  rw [(mend_eq_iff_of_plain hplain).mp rfl] at hb
  exact hnone ⟨b, hb, hwide⟩

end WorkloadIdentity.Utf8
