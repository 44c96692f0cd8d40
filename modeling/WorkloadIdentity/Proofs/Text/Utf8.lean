import Mathlib.Tactic.IntervalCases
import WorkloadIdentity.Text.Utf8

/-!
Reading UTF-8 back. A character is read from its bytes whatever follows them, and no character
reaches into the bytes of the next one: a continuation byte never begins a character. So a character
whose bytes stand in a text that can be read is one of the characters of the text. No other bytes
are read as a character than those it is written with, so a text is read from its own bytes only.
-/

namespace WorkloadIdentity.Utf8

variable {b : UInt8} {c : Char} {rest : Bytes}

/-! ### Bytes of one character -/

/-- Bytes that only continue a character. -/
def isContinuation (b : UInt8) : Bool := 0x80 ≤ b && b ≤ 0xBF

private theorem toNat_ofNat {n : Nat} (h : n < 256) : (UInt8.ofNat n).toNat = n := by
  simpa using Nat.mod_eq_of_lt h

private theorem continuation_cons {acc seen more : Nat} {low high : UInt8} (hlow : low ≤ b)
    (hhigh : b ≤ high) :
    continuation acc low high seen (more + 1) (b :: rest) =
      continuation (acc * 64 + (b.toNat - 0x80)) 0x80 0xBF (seen + 1) more rest := by
  have hrange : (low ≤ b && b ≤ high) = true := by simp [hlow, hhigh]
  simp only [continuation, hrange, if_true]

private theorem continuation_ofNat {acc seen more n : Nat} {low high : UInt8} (hn : n < 256)
    (hlow : low.toNat ≤ n) (hhigh : n ≤ high.toNat) :
    continuation acc low high seen (more + 1) (UInt8.ofNat n :: rest) =
      continuation (acc * 64 + (n - 0x80)) 0x80 0xBF (seen + 1) more rest := by
  rw [continuation_cons, toNat_ofNat hn]
  · rw [UInt8.le_iff_toNat_le, toNat_ofNat hn]
    exact hlow
  · rw [UInt8.le_iff_toNat_le, toNat_ofNat hn]
    exact hhigh

private theorem piece_of_lead {n : Nat} {lead : Lead} (hlow : 0x80 ≤ n) (hhigh : n < 256)
    (hlead : lead? (UInt8.ofNat n) = some lead) (rest : Bytes) :
    piece (UInt8.ofNat n) rest = continuation lead.bits lead.low lead.high 1 lead.more rest := by
  have hnot : ¬UInt8.ofNat n < 0x80 := by
    rw [UInt8.lt_iff_toNat_lt, toNat_ofNat hhigh]
    exact Nat.not_lt.mpr hlow
  unfold piece
  rw [if_neg hnot, hlead]

private theorem lead_two {n : Nat} (hlow : 0xC2 ≤ n) (hhigh : n < 0xE0) :
    lead? (UInt8.ofNat n) = some ⟨1, n - 0xC0, 0x80, 0xBF⟩ := by
  have hn : (UInt8.ofNat n).toNat = n := toNat_ofNat (by omega)
  simp [lead?, UInt8.lt_iff_toNat_lt, hn]
  omega

private theorem lead_three {n : Nat} (hlow : 0xE0 ≤ n) (hhigh : n < 0xF0) :
    lead? (UInt8.ofNat n) = some ⟨2, n - 0xE0, if n = 0xE0 then 0xA0 else 0x80,
      if n = 0xED then 0x9F else 0xBF⟩ := by
  interval_cases n <;> rfl

private theorem lead_four {n : Nat} (hlow : 0xF0 ≤ n) (hhigh : n ≤ 0xF4) :
    lead? (UInt8.ofNat n) = some ⟨3, n - 0xF0, if n = 0xF0 then 0x90 else 0x80,
      if n = 0xF4 then 0x8F else 0xBF⟩ := by
  interval_cases n <;> rfl

private theorem piece_two {v : Nat} (hlow : 0x80 ≤ v) (hhigh : v < 0x800) :
    piece (UInt8.ofNat (v / 64 % 32 + 192)) (UInt8.ofNat (v % 64 + 128) :: rest) =
      .char (Char.ofNat v) 2 := by
  have hsum : (v / 64 % 32 + 192 - 0xC0) * 64 + (v % 64 + 128 - 0x80) = v := by omega
  rw [piece_of_lead (by omega) (by omega) (lead_two (by omega) (by omega)),
    continuation_ofNat (by omega) (by simp) (by simp; omega)]
  simp only [continuation, hsum]

private theorem piece_three {v : Nat} (hlow : 0x800 ≤ v) (hhigh : v < 0x10000)
    (hvalid : v < 0xD800 ∨ 0xDFFF < v) :
    piece (UInt8.ofNat (v / 4096 % 16 + 224))
        (UInt8.ofNat (v / 64 % 64 + 128) :: UInt8.ofNat (v % 64 + 128) :: rest) =
      .char (Char.ofNat v) 3 := by
  have hsum : ((v / 4096 % 16 + 224 - 0xE0) * 64 + (v / 64 % 64 + 128 - 0x80)) * 64 +
      (v % 64 + 128 - 0x80) = v := by omega
  rw [piece_of_lead (by omega) (by omega) (lead_three (by omega) (by omega)),
    continuation_ofNat (by omega) ?_ ?_, continuation_ofNat (by omega) (by simp) (by simp; omega)]
  · simp only [continuation, hsum]
  all_goals
    dsimp only
    split
    all_goals
      simp only [UInt8.reduceToNat]
      omega

private theorem piece_four {v : Nat} (hlow : 0x10000 ≤ v) (hhigh : v < 0x110000) :
    piece (UInt8.ofNat (v / 262144 % 8 + 240))
        (UInt8.ofNat (v / 4096 % 64 + 128) :: UInt8.ofNat (v / 64 % 64 + 128) ::
          UInt8.ofNat (v % 64 + 128) :: rest) =
      .char (Char.ofNat v) 4 := by
  have hsum : (((v / 262144 % 8 + 240 - 0xF0) * 64 + (v / 4096 % 64 + 128 - 0x80)) * 64 +
      (v / 64 % 64 + 128 - 0x80)) * 64 + (v % 64 + 128 - 0x80) = v := by omega
  rw [piece_of_lead (by omega) (by omega) (lead_four (by omega) (by omega)),
    continuation_ofNat (by omega) ?_ ?_, continuation_ofNat (by omega) (by simp) (by simp; omega),
    continuation_ofNat (by omega) (by simp) (by simp; omega)]
  · simp only [continuation, hsum]
  all_goals
    dsimp only
    split
    all_goals
      simp only [UInt8.reduceToNat]
      omega

/-- A character is read from its bytes, whatever follows. -/
theorem piece_of_encoded (c : Char) {tail : Bytes} (h : String.utf8EncodeChar c = b :: tail)
    (rest : Bytes) : piece b (tail ++ rest) = .char c (tail.length + 1) := by
  have hvalid : c.val.toNat < 0xD800 ∨ 0xDFFF < c.val.toNat ∧ c.val.toNat < 0x110000 := c.valid
  have hchar : Char.ofNat c.val.toNat = c := Char.ofNat_toNat c
  unfold String.utf8EncodeChar at h
  generalize c.val.toNat = v at h hvalid hchar
  subst hchar
  dsimp only at h
  split at h
  · next hone =>
      cases h
      have hb : UInt8.ofNat v < 0x80 := by
        rw [UInt8.lt_iff_toNat_lt, toNat_ofNat (by omega)]
        exact Nat.lt_succ_of_le hone
      have hv : (UInt8.ofNat v).toNat = v := toNat_ofNat (by omega)
      simp only [piece, hb, if_true, hv, List.length_nil]
  · split at h
    · cases h
      exact piece_two (by omega) (by omega)
    · split at h
      · cases h
        exact piece_three (by omega) (by omega) (by omega)
      · cases h
        exact piece_four (by omega) (by omega)

/-- No character begins with a continuation byte. -/
theorem encoded_begins {tail : Bytes} (h : String.utf8EncodeChar c = b :: tail) :
    isContinuation b = false := by
  have hpiece := piece_of_encoded c h []
  cases hcontinues : isContinuation b with
  | false => rfl
  | true =>
      simp only [isContinuation, Bool.and_eq_true, decide_eq_true_eq, UInt8.le_iff_toNat_le]
        at hcontinues
      have hlow : 0x80 ≤ b.toNat := hcontinues.1
      have hhigh : b.toNat ≤ 0xBF := hcontinues.2
      have hnot : ¬b < 0x80 := by
        rw [UInt8.lt_iff_toNat_lt]
        exact Nat.not_lt.mpr hlow
      have hlead : lead? b = none := by
        have hbelow : b < 0xC2 := by
          rw [UInt8.lt_iff_toNat_lt]
          exact Nat.lt_of_le_of_lt hhigh (by decide)
        simp [lead?, hbelow]
      unfold piece at hpiece
      rw [if_neg hnot, hlead] at hpiece
      cases hpiece

/-! ### Where a character ends -/

theorem continuation_char {acc seen more n : Nat} {low high : UInt8} (hlow : 0x80 ≤ low)
    (hhigh : high ≤ 0xBF) (h : continuation acc low high seen more rest = .char c n) :
    n = seen + more ∧ more ≤ rest.length ∧ ∀ x ∈ rest.take more, isContinuation x = true := by
  induction more generalizing acc seen low high rest with
  | zero =>
      simp only [continuation, Piece.char.injEq] at h
      exact ⟨h.2.symm, Nat.zero_le _, by simp⟩
  | succ more ih =>
      cases rest with
      | nil => simp [continuation] at h
      | cons x rest =>
          unfold continuation at h
          split at h
          · next hrange =>
              obtain ⟨hn, hmore, hrest⟩ := ih (by decide) (by decide) h
              simp only [Bool.and_eq_true, decide_eq_true_eq] at hrange
              have hx : isContinuation x = true := by
                simp only [isContinuation, Bool.and_eq_true, decide_eq_true_eq]
                exact ⟨UInt8.le_trans hlow hrange.1, UInt8.le_trans hrange.2 hhigh⟩
              refine ⟨by omega, by simpa using hmore, ?_⟩
              intro y hy
              rw [List.take_succ_cons] at hy
              rcases List.mem_cons.mp hy with rfl | hy
              · exact hx
              · exact hrest y hy
          · cases h

theorem lead_range {lead : Lead} (h : lead? b = some lead) :
    0x80 ≤ lead.low ∧ lead.high ≤ 0xBF := by
  unfold lead? at h
  repeat' split at h
  all_goals cases h
  all_goals exact ⟨by dsimp only; decide, by dsimp only; decide⟩

/-- What is read as one character is one byte and continuation bytes. -/
theorem piece_char {n : Nat} (h : piece b rest = .char c n) :
    n ≤ rest.length + 1 ∧ ∀ x ∈ rest.take (n - 1), isContinuation x = true := by
  unfold piece at h
  split at h
  · cases h
    simp
  · split at h
    · cases h
    · next lead hlead =>
        obtain ⟨hlow, hhigh⟩ := lead_range hlead
        obtain ⟨rfl, hmore, hrest⟩ := continuation_char hlow hhigh h
        have hlength : 1 + lead.more - 1 = lead.more := by omega
        rw [hlength]
        exact ⟨by omega, hrest⟩

/-! ### Characters of a text -/

def Piece.char? : Piece → Option Char
  | .char c _ => some c
  | .broken _ => none

theorem mem_of_pieces {front later : Bytes} {cs : List Char} {fuel : Nat}
    (hfuel : (front ++ (String.utf8EncodeChar c ++ later)).length ≤ fuel)
    (h : (pieces fuel (front ++ (String.utf8EncodeChar c ++ later))).mapM Piece.char? = some cs) :
    c ∈ cs := by
  obtain ⟨b, tail, hencoded⟩ : ∃ b tail, String.utf8EncodeChar c = b :: tail :=
    List.exists_cons_of_ne_nil String.utf8EncodeChar_ne_nil
  rw [hencoded, List.cons_append] at hfuel h
  -- What is read first is the character itself or ends in front of it.
  induction fuel generalizing front cs with
  | zero => simp at hfuel
  | succ fuel ih =>
      cases front with
      | nil =>
          have hfirst : pieces (fuel + 1) (b :: (tail ++ later)) =
              .char c (tail.length + 1) :: pieces fuel ((tail ++ later).drop tail.length) := by
            simp only [pieces, piece_of_encoded c hencoded later, Nat.add_sub_cancel]
          rw [List.nil_append, hfirst] at h
          simp only [List.mapM_cons, Piece.char?, Option.pure_def, Option.bind_eq_bind,
            Option.bind_eq_some_iff, Option.some.injEq] at h
          obtain ⟨_, rfl, others, _, rfl⟩ := h
          exact List.mem_cons_self
      | cons x front =>
          cases hpiece : piece x (front ++ (b :: (tail ++ later))) with
          | broken n => simp [pieces, hpiece, List.mapM_cons, Piece.char?] at h
          | char d n =>
              have hcontinues := (piece_char hpiece).2
              have hends : n - 1 ≤ front.length := by
                by_contra hover
                have hmem : b ∈ (front ++ (b :: (tail ++ later))).take (n - 1) := by
                  obtain ⟨k, hk⟩ : ∃ k, n - 1 - front.length = k + 1 :=
                    ⟨n - 1 - front.length - 1, by omega⟩
                  rw [List.take_append, hk, List.take_succ_cons]
                  exact List.mem_append_right _ List.mem_cons_self
                have hb : isContinuation b = true := hcontinues b hmem
                rw [encoded_begins hencoded] at hb
                cases hb
              have hfirst : pieces (fuel + 1) (x :: (front ++ (b :: (tail ++ later)))) =
                  .char d n :: pieces fuel (front.drop (n - 1) ++ (b :: (tail ++ later))) := by
                simp only [pieces, hpiece, List.drop_append_of_le_length hends]
              rw [List.cons_append, hfirst] at h
              simp only [List.mapM_cons, Piece.char?, Option.pure_def, Option.bind_eq_bind,
                Option.bind_eq_some_iff, Option.some.injEq] at h
              obtain ⟨_, rfl, others, hothers, rfl⟩ := h
              apply List.mem_cons_of_mem
              apply ih hothers
              simp only [List.length_append, List.length_cons, List.length_drop] at hfuel ⊢
              omega

/-- A character whose bytes stand in a text is one of its characters. -/
theorem mem_of_decode? {front later : Bytes} {cs : List Char}
    (h : decode? (front ++ String.utf8EncodeChar c ++ later) = some cs) : c ∈ cs := by
  rw [List.append_assoc] at h
  exact mem_of_pieces (Nat.le_refl _) h

/-! ### Reading back what was written -/

private theorem val_ofNat {v : Nat} (h : v < 0xD800 ∨ 0xDFFF < v ∧ v < 0x110000) :
    (Char.ofNat v).val.toNat = v := by
  rw [Char.ofNat, dif_pos h]
  rfl

private theorem eq_ofNat {n : Nat} (h : n = b.toNat) : UInt8.ofNat n = b := by
  rw [h, UInt8.ofNat_toNat]

private theorem encode_two {x : UInt8} (hlow : 0xC2 ≤ b.toNat) (hhigh : b.toNat < 0xE0)
    (hx : 0x80 ≤ x.toNat) (hx' : x.toNat ≤ 0xBF) :
    String.utf8EncodeChar (Char.ofNat ((b.toNat - 0xC0) * 64 + (x.toNat - 0x80))) = [b, x] := by
  generalize hsum : (b.toNat - 0xC0) * 64 + (x.toNat - 0x80) = v
  have hb : UInt8.ofNat (v / 64 % 32 + 192) = b := eq_ofNat (by omega)
  have hsecond : UInt8.ofNat (v % 64 + 128) = x := eq_ofNat (by omega)
  rw [String.utf8EncodeChar, val_ofNat (by omega), if_neg (by omega), if_pos (by omega), hb,
    hsecond]

private theorem encode_three {x y : UInt8} (hlow : 0xE0 ≤ b.toNat) (hhigh : b.toNat < 0xF0)
    (hx : (if b.toNat = 0xE0 then 0xA0 else 0x80) ≤ x.toNat)
    (hx' : x.toNat ≤ if b.toNat = 0xED then 0x9F else 0xBF)
    (hy : 0x80 ≤ y.toNat) (hy' : y.toNat ≤ 0xBF) :
    String.utf8EncodeChar (Char.ofNat
      (((b.toNat - 0xE0) * 64 + (x.toNat - 0x80)) * 64 + (y.toNat - 0x80))) = [b, x, y] := by
  have hlow' : 0x80 ≤ x.toNat ∧ (b.toNat = 0xE0 → 0xA0 ≤ x.toNat) := by split at hx <;> omega
  have hhigh' : x.toNat ≤ 0xBF ∧ (b.toNat = 0xED → x.toNat ≤ 0x9F) := by split at hx' <;> omega
  clear hx hx'
  generalize hsum : ((b.toNat - 0xE0) * 64 + (x.toNat - 0x80)) * 64 + (y.toNat - 0x80) = v
  have hb : UInt8.ofNat (v / 4096 % 16 + 224) = b := eq_ofNat (by omega)
  have hsecond : UInt8.ofNat (v / 64 % 64 + 128) = x := eq_ofNat (by omega)
  have hthird : UInt8.ofNat (v % 64 + 128) = y := eq_ofNat (by omega)
  rw [String.utf8EncodeChar, val_ofNat (by omega), if_neg (by omega), if_neg (by omega),
    if_pos (by omega), hb, hsecond, hthird]

private theorem encode_four {x y z : UInt8} (hlow : 0xF0 ≤ b.toNat) (hhigh : b.toNat ≤ 0xF4)
    (hx : (if b.toNat = 0xF0 then 0x90 else 0x80) ≤ x.toNat)
    (hx' : x.toNat ≤ if b.toNat = 0xF4 then 0x8F else 0xBF)
    (hy : 0x80 ≤ y.toNat) (hy' : y.toNat ≤ 0xBF) (hz : 0x80 ≤ z.toNat) (hz' : z.toNat ≤ 0xBF) :
    String.utf8EncodeChar (Char.ofNat ((((b.toNat - 0xF0) * 64 + (x.toNat - 0x80)) * 64 +
      (y.toNat - 0x80)) * 64 + (z.toNat - 0x80))) = [b, x, y, z] := by
  have hlow' : 0x80 ≤ x.toNat ∧ (b.toNat = 0xF0 → 0x90 ≤ x.toNat) := by split at hx <;> omega
  have hhigh' : x.toNat ≤ 0xBF ∧ (b.toNat = 0xF4 → x.toNat ≤ 0x8F) := by split at hx' <;> omega
  clear hx hx'
  generalize hsum : (((b.toNat - 0xF0) * 64 + (x.toNat - 0x80)) * 64 + (y.toNat - 0x80)) * 64 +
    (z.toNat - 0x80) = v
  have hb : UInt8.ofNat (v / 262144 % 8 + 240) = b := eq_ofNat (by omega)
  have hsecond : UInt8.ofNat (v / 4096 % 64 + 128) = x := eq_ofNat (by omega)
  have hthird : UInt8.ofNat (v / 64 % 64 + 128) = y := eq_ofNat (by omega)
  have hfourth : UInt8.ofNat (v % 64 + 128) = z := eq_ofNat (by omega)
  rw [String.utf8EncodeChar, val_ofNat (by omega), if_neg (by omega), if_neg (by omega),
    if_neg (by omega), hb, hsecond, hthird, hfourth]

theorem continuation_succ {acc seen more n : Nat} {low high : UInt8}
    (h : continuation acc low high seen (more + 1) rest = .char c n) :
    ∃ x rest', rest = x :: rest' ∧ low.toNat ≤ x.toNat ∧ x.toNat ≤ high.toNat ∧
      continuation (acc * 64 + (x.toNat - 0x80)) 0x80 0xBF (seen + 1) more rest' = .char c n := by
  cases rest with
  | nil => cases h
  | cons x rest =>
      unfold continuation at h
      split at h
      · next hrange =>
          simp only [Bool.and_eq_true, decide_eq_true_eq, UInt8.le_iff_toNat_le] at hrange
          exact ⟨x, rest, rfl, hrange.1, hrange.2, h⟩
      · cases h

private theorem continuation_zero {acc seen n : Nat} {low high : UInt8}
    (h : continuation acc low high seen 0 rest = .char c n) : c = Char.ofNat acc ∧ n = seen := by
  cases h
  exact ⟨rfl, rfl⟩

/-- The lead bytes, as numbers. -/
private theorem lead_cases {lead : Lead} (h : lead? b = some lead) :
    (0xC2 ≤ b.toNat ∧ b.toNat < 0xE0 ∧ lead = ⟨1, b.toNat - 0xC0, 0x80, 0xBF⟩) ∨
    (0xE0 ≤ b.toNat ∧ b.toNat < 0xF0 ∧ lead = ⟨2, b.toNat - 0xE0,
      if b.toNat = 0xE0 then 0xA0 else 0x80, if b.toNat = 0xED then 0x9F else 0xBF⟩) ∨
    (0xF0 ≤ b.toNat ∧ b.toNat ≤ 0xF4 ∧ lead = ⟨3, b.toNat - 0xF0,
      if b.toNat = 0xF0 then 0x90 else 0x80, if b.toNat = 0xF4 then 0x8F else 0xBF⟩) := by
  have hlow : 0xC2 ≤ b.toNat := by
    by_contra hbelow
    have hb : b < 0xC2 := by
      rw [UInt8.lt_iff_toNat_lt]
      exact Nat.lt_of_not_le hbelow
    rw [lead?, if_pos hb] at h
    cases h
  have hb : UInt8.ofNat b.toNat = b := UInt8.ofNat_toNat
  rw [← hb] at h
  rcases Nat.lt_or_ge b.toNat 0xE0 with hhigh | hthree
  · rw [lead_two hlow hhigh] at h
    exact .inl ⟨hlow, hhigh, (Option.some.inj h).symm⟩
  rcases Nat.lt_or_ge b.toNat 0xF0 with hhigh | hfour
  · rw [lead_three hthree hhigh] at h
    exact .inr (.inl ⟨hthree, hhigh, (Option.some.inj h).symm⟩)
  rcases Nat.lt_or_ge 0xF4 b.toNat with hhigh | hhigh
  · have hbound := b.toNat_lt
    generalize b.toNat = n at h hhigh hbound
    interval_cases n <;> cases h
  · rw [lead_four hfour hhigh] at h
    exact .inr (.inr ⟨hfour, hhigh, (Option.some.inj h).symm⟩)

/-- What is read as one character is the character as it is written. -/
theorem encoded_of_piece {n : Nat} (h : piece b rest = .char c n) :
    ∃ tail later, String.utf8EncodeChar c = b :: tail ∧ rest = tail ++ later ∧
      n = tail.length + 1 := by
  unfold piece at h
  split at h
  · next hone =>
      cases h
      simp only [UInt8.lt_iff_toNat_lt, UInt8.reduceToNat] at hone
      have hv := val_ofNat (v := b.toNat) (by omega)
      refine ⟨[], rest, ?_, rfl, rfl⟩
      rw [String.utf8EncodeChar, hv, if_pos (by omega), UInt8.ofNat_toNat]
  · split at h
    · cases h
    · next lead hlead =>
        rcases lead_cases hlead with ⟨hlow, hhigh, rfl⟩ | ⟨hlow, hhigh, rfl⟩ | ⟨hlow, hhigh, rfl⟩
        · obtain ⟨x, later, rfl, hx, hx', h⟩ := continuation_succ h
          obtain ⟨hc, hn⟩ := continuation_zero h
          refine ⟨[x], later, ?_, rfl, hn⟩
          rw [hc]
          exact encode_two hlow hhigh hx hx'
        · obtain ⟨x, later, rfl, hx, hx', h⟩ := continuation_succ h
          obtain ⟨y, later, rfl, hy, hy', h⟩ := continuation_succ h
          obtain ⟨hc, hn⟩ := continuation_zero h
          simp only [apply_ite UInt8.toNat, UInt8.reduceToNat] at hx hx'
          refine ⟨[x, y], later, ?_, rfl, hn⟩
          rw [hc]
          exact encode_three hlow hhigh hx hx' hy hy'
        · obtain ⟨x, later, rfl, hx, hx', h⟩ := continuation_succ h
          obtain ⟨y, later, rfl, hy, hy', h⟩ := continuation_succ h
          obtain ⟨z, later, rfl, hz, hz', h⟩ := continuation_succ h
          obtain ⟨hc, hn⟩ := continuation_zero h
          simp only [apply_ite UInt8.toNat, UInt8.reduceToNat] at hx hx'
          refine ⟨[x, y, z], later, ?_, rfl, hn⟩
          rw [hc]
          exact encode_four hlow hhigh hx hx' hy hy' hz hz'

theorem encode_cons {cs : List Char} : encode (c :: cs) = String.utf8EncodeChar c ++ encode cs :=
  List.flatMap_cons

private theorem nil_eq_encode_iff {cs : List Char} : [] = encode cs ↔ some [] = some cs := by
  cases cs with
  | nil => exact iff_of_true rfl rfl
  | cons c cs =>
      rw [encode_cons, eq_comm, List.append_eq_nil_iff]
      exact iff_of_false (fun h => String.utf8EncodeChar_ne_nil h.1) nofun

private theorem pieces_char {tail later : Bytes} {n fuel : Nat}
    (h : piece b (tail ++ later) = .char c n) (hn : n = tail.length + 1) :
    pieces (fuel + 1) (b :: (tail ++ later)) = .char c n :: pieces fuel later := by
  have hdrop : n - 1 = tail.length := by omega
  simp only [pieces, h, hdrop, List.drop_left]

theorem mapM_pieces_eq_some_iff {bs : Bytes} {cs : List Char} {fuel : Nat}
    (hfuel : bs.length ≤ fuel) :
    (pieces fuel bs).mapM Piece.char? = some cs ↔ bs = encode cs := by
  induction fuel generalizing bs cs with
  | zero =>
      rw [List.eq_nil_of_length_eq_zero (Nat.le_zero.mp hfuel)]
      exact nil_eq_encode_iff.symm
  | succ fuel ih =>
      cases bs with
      | nil => exact nil_eq_encode_iff.symm
      | cons b rest =>
          constructor
          · intro h
            cases hpiece : piece b rest with
            | broken n => simp [pieces, hpiece, Piece.char?] at h
            | char c n =>
                obtain ⟨tail, later, hencoded, rfl, hn⟩ := encoded_of_piece hpiece
                rw [pieces_char hpiece hn] at h
                simp only [List.mapM_cons, Piece.char?, Option.pure_def, Option.bind_eq_bind,
                  Option.bind_eq_some_iff, Option.some.injEq] at h
                obtain ⟨_, rfl, others, hothers, rfl⟩ := h
                have hshorter : later.length ≤ fuel := by
                  simp only [List.length_cons, List.length_append] at hfuel
                  omega
                have hlater : later = encode others := (ih hshorter).mp hothers
                rw [encode_cons, hencoded, hlater, List.cons_append]
          · intro h
            cases cs with
            | nil => cases h
            | cons c cs =>
                obtain ⟨first, tail, hencoded⟩ : ∃ first tail,
                    String.utf8EncodeChar c = first :: tail :=
                  List.exists_cons_of_ne_nil String.utf8EncodeChar_ne_nil
                rw [encode_cons, hencoded, List.cons_append, List.cons.injEq] at h
                obtain ⟨rfl, rfl⟩ := h
                have hshorter : (encode cs).length ≤ fuel := by
                  simp only [List.length_cons, List.length_append] at hfuel
                  omega
                have hothers : (pieces fuel (encode cs)).mapM Piece.char? = some cs :=
                  (ih hshorter).mpr rfl
                rw [pieces_char (piece_of_encoded c hencoded _) rfl]
                simp [Piece.char?, hothers]

/-- Text is read from the bytes it is written with, and from no others. -/
theorem decode?_eq_some_iff {bs : Bytes} {cs : List Char} :
    decode? bs = some cs ↔ bs = encode cs :=
  mapM_pieces_eq_some_iff (Nat.le_refl _)

theorem toString?_eq_some_iff {bs : Bytes} {s : String} :
    toString? bs = some s ↔ bs = ofString s := by
  rw [toString?, Option.map_eq_some_iff, ofString, ← decode?_eq_some_iff]
  constructor
  · rintro ⟨cs, hcs, rfl⟩
    rw [hcs, String.toList_ofList]
  · intro h
    exact ⟨s.toList, h, String.ofList_toList⟩

/-- Who reads any bytes reads text as it was written. -/
theorem decodeLossy_encode (cs : List Char) : decodeLossy (encode cs) = cs := by
  have hlossy (pieces : List Piece) (ds : List Char) (h : pieces.mapM Piece.char? = some ds) :
      pieces.map (fun | .char c _ => c | .broken _ => replacement) = ds := by
    induction pieces generalizing ds with
    | nil => exact Option.some.inj h
    | cons piece pieces ih =>
        cases piece with
        | broken n => simp [Piece.char?] at h
        | char c n =>
            simp only [List.mapM_cons, Piece.char?, Option.pure_def, Option.bind_eq_bind,
              Option.bind_eq_some_iff, Option.some.injEq] at h
            obtain ⟨_, rfl, rest, hrest, rfl⟩ := h
            rw [List.map_cons, ih rest hrest]
  exact hlossy _ cs (decode?_eq_some_iff.mpr rfl)

theorem encode_inj {cs ds : List Char} (h : encode cs = encode ds) : cs = ds := by
  have hread : decode? (encode cs) = some ds := decode?_eq_some_iff.mpr h
  exact Option.some.inj ((decode?_eq_some_iff.mpr rfl).symm.trans hread)

/-! ### Where a written character ends -/

/-- The bytes behind the first one of a character continue it. -/
theorem isContinuation_of_mem_tail {tail : Bytes} (h : String.utf8EncodeChar c = b :: tail) :
    ∀ x ∈ tail, isContinuation x = true := by
  have hrest := (piece_char (piece_of_encoded c h [])).2
  rwa [Nat.add_sub_cancel, List.append_nil, List.take_length] at hrest

/-- The first characters of the same bytes are the same. -/
theorem encoded_append_inj {d : Char} {front later : Bytes}
    (h : String.utf8EncodeChar c ++ front = String.utf8EncodeChar d ++ later) :
    c = d ∧ front = later := by
  obtain ⟨b, tail, hc⟩ := List.exists_cons_of_ne_nil (String.utf8EncodeChar_ne_nil (c := c))
  obtain ⟨b', tail', hd⟩ := List.exists_cons_of_ne_nil (String.utf8EncodeChar_ne_nil (c := d))
  have hbytes := h
  rw [hc, hd, List.cons_append, List.cons_append, List.cons.injEq] at hbytes
  have hread := piece_of_encoded c hc front
  rw [hbytes.1, hbytes.2, piece_of_encoded d hd later, Piece.char.injEq] at hread
  obtain rfl := hread.1
  exact ⟨rfl, List.append_cancel_left h⟩

/-- An ASCII character is written as its number, and no other character begins with such a
byte. -/
theorem toNat_first {tail : Bytes} (h : String.utf8EncodeChar c = b :: tail)
    (hascii : c.toNat < 0x80 ∨ b < 0x80) : c.toNat = b.toNat := by
  have hb : b < 0x80 := by
    rcases hascii with hc | hb
    · have hone : String.utf8EncodeChar c = [UInt8.ofNat c.toNat] :=
        if_pos (Nat.le_of_lt_succ hc)
      rw [h, List.cons.injEq] at hone
      rw [hone.1, UInt8.lt_iff_toNat_lt, toNat_ofNat (by omega)]
      exact hc
    · exact hb
  have hread := piece_of_encoded c h []
  rw [piece, if_pos hb, Piece.char.injEq] at hread
  rw [← hread.1]
  simp only [UInt8.lt_iff_toNat_lt, UInt8.reduceToNat] at hb
  exact val_ofNat (by omega)

/-- The byte of an ASCII character is part of no other one. -/
theorem mem_encode_iff_of_ascii {cs : List Char} (hc : c.toNat < 0x80) :
    UInt8.ofNat c.toNat ∈ encode cs ↔ c ∈ cs := by
  have hself : String.utf8EncodeChar c = [UInt8.ofNat c.toNat] := if_pos (Nat.le_of_lt_succ hc)
  have hvalue : (UInt8.ofNat c.toNat).toNat = c.toNat := toNat_ofNat (by omega)
  have hbyte : UInt8.ofNat c.toNat < 0x80 := by
    rw [UInt8.lt_iff_toNat_lt, hvalue]
    exact hc
  rw [encode, List.mem_flatMap]
  constructor
  · rintro ⟨d, hd, hmem⟩
    obtain ⟨first, tail, hencoded⟩ :=
      List.exists_cons_of_ne_nil (String.utf8EncodeChar_ne_nil (c := d))
    rw [hencoded] at hmem
    rcases List.mem_cons.mp hmem with hfirst | htail
    · rw [← hfirst] at hencoded
      have hsame : d.toNat = c.toNat := (toNat_first hencoded (Or.inr hbyte)).trans hvalue
      rwa [Char.toNat_inj.mp hsame] at hd
    · have hcontinues := isContinuation_of_mem_tail hencoded _ htail
      simp only [isContinuation, Bool.and_eq_true, decide_eq_true_eq] at hcontinues
      exact absurd hbyte (UInt8.not_lt.mpr hcontinues.1)
  · intro hmem
    exact ⟨c, hmem, by rw [hself]; exact List.mem_singleton_self _⟩

end WorkloadIdentity.Utf8
