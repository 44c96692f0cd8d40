import WorkloadIdentity.Proofs.Fallible
import WorkloadIdentity.Proofs.Text.Parts
import WorkloadIdentity.Url.Domain

/-!
Names of hosts are written in ASCII, whatever they are read from: a label beyond ASCII is encoded,
and one that comes encoded could not be decoded if it were not ASCII.
-/

namespace WorkloadIdentity.Url

variable {c : Char} {cs label : List Char}

namespace Punycode

variable {bias acc weight k next fuel code index count : Nat} {out rest : List Char}

/-! ### What can be read -/

theorem isAscii_of_digitValue? {d : Nat} (h : digitValue? c = some d) : isAscii c = true := by
  simp only [digitValue?, Bool.and_eq_true, decide_eq_true_eq] at h
  simp only [isAscii, decide_eq_true_eq]
  split at h
  · omega
  · split at h
    · omega
    · split at h
      · omega
      · cases h

/-- A distance that is read takes ASCII characters and leaves the rest. -/
theorem readDelta_takes (h : readDelta bias acc weight k cs = some (next, rest)) :
    ∃ digits, cs = digits ++ rest ∧ digits.all isAscii = true := by
  induction cs generalizing acc weight k with
  | nil => cases h
  | cons c cs ih =>
      simp only [readDelta, Option.bind_eq_bind, Option.bind_eq_some_iff] at h
      obtain ⟨d, hd, h⟩ := h
      have hc := isAscii_of_digitValue? hd
      split at h
      · cases h
      · split at h
        · cases h
          exact ⟨[c], rfl, by simp [hc]⟩
        · split at h
          · cases h
          · obtain ⟨digits, rfl, hdigits⟩ := ih h
            exact ⟨c :: digits, rfl, by simp [hc, hdigits]⟩

theorem isAscii_of_insertAll (h : insertAll fuel code index bias out cs = some label) :
    cs.all isAscii = true := by
  induction fuel generalizing code index bias out cs with
  | zero =>
      cases cs with
      | nil => rfl
      | cons c cs => cases h
  | succ fuel ih =>
      cases cs with
      | nil => rfl
      | cons c cs =>
          obtain ⟨⟨next, rest⟩, hread, h⟩ := Option.bind_eq_some_iff.mp h
          obtain ⟨digits, hcs, hdigits⟩ := readDelta_takes hread
          obtain ⟨_, h⟩ := Option.dite_none_right_eq_some.mp h
          rw [hcs, List.all_append, hdigits, ih h]
          rfl

theorem isAscii_of_decode? (h : decode? cs = some label) : cs.all isAscii = true := by
  unfold decode? at h
  split at h
  · cases h
  · next plain digits _ hcut =>
      split at h
      · next hplain =>
          rw [Text.eq_of_cutLast? hcut, List.all_append, hplain, List.all_cons,
            isAscii_of_insertAll h]
          rfl
      · cases h
  · exact isAscii_of_insertAll h

/-! ### What is written -/

theorem isAscii_digit {d : Nat} (h : d < 36) : isAscii (digit d) = true := by
  have hall : (List.range 36).all (fun d => isAscii (digit d)) = true := by decide
  exact List.all_eq_true.mp hall d (List.mem_range.mpr h)

theorem isAscii_writeDelta (bias k delta : Nat) : (writeDelta bias k delta).all isAscii = true := by
  fun_induction writeDelta bias k delta with
  | case1 k delta t hlast =>
      have hbounds := threshold_bounds k bias
      rw [List.all_cons, isAscii_digit (by omega)]
      rfl
  | case2 k delta t hmore ih =>
      have hbounds := threshold_bounds k bias
      have hrest : (delta - t) % (36 - t) < 36 - t := Nat.mod_lt _ (by omega)
      rw [List.all_cons, isAscii_digit (by omega), ih]
      rfl

theorem isAscii_writeAll (count code index bias : Nat) (insertions : List (Nat × Nat)) :
    (writeAll count code index bias insertions).all isAscii = true := by
  induction insertions generalizing count code index bias with
  | nil => rfl
  | cons insertion rest ih =>
      simp only [writeAll, List.all_append, isAscii_writeDelta, ih, Bool.and_self]

theorem isAscii_encode (cs : List Char) : (encode cs).all isAscii = true := by
  have hplain : (cs.filter isAscii).all isAscii = true := by
    rw [List.all_eq_true]
    exact fun c hc => (List.mem_filter.mp hc).2
  simp only [encode, List.all_append, hplain, isAscii_writeAll, Bool.and_true, Bool.true_and]
  split
  · rfl
  · rfl

end Punycode

open Punycode (isAscii)

theorem isAscii_join {sep : List Char} {parts : List (List Char)} (hsep : sep.all isAscii = true)
    (h : ∀ part ∈ parts, part.all isAscii = true) : (Text.join sep parts).all isAscii = true := by
  induction parts with
  | nil => rfl
  | cons part parts ih =>
      have hpart := h part List.mem_cons_self
      have hparts := ih fun other hother => h other (List.mem_cons_of_mem _ hother)
      by_cases hlast : parts = []
      · subst hlast
        exact hpart
      · rw [Text.join_cons hlast, List.all_append, List.all_append, hpart, hsep, hparts]
        rfl

namespace Domain

variable {label : Label} {labels : List Label} {name : List Char}

theorem isAscii_asciiForm (cs : List Char) : (asciiForm cs).all isAscii = true := by
  unfold asciiForm
  split
  · assumption
  · rw [List.all_append, Punycode.isAscii_encode]
    rfl

theorem isAscii_of_decodeLabel? {readable : List Char} (h : decodeLabel? cs = some readable) :
    cs.all isAscii = true := by
  simp only [decodeLabel?, Option.bind_eq_bind] at h
  split at h
  · cases h
  · obtain ⟨_, hread, _⟩ := Option.bind_eq_some_iff.mp h
    exact Punycode.isAscii_of_decode? hread

theorem isAscii_of_readLabel? (h : readLabel? cs = some label) :
    label.written.all isAscii = true := by
  unfold readLabel? at h
  split at h
  · next digits hdigits =>
      obtain ⟨readable, hreadable, h⟩ := Option.bind_eq_some_iff.mp h
      split at h
      · cases h
        rw [Text.after?_eq_some_iff.mp hdigits, List.all_append, isAscii_of_decodeLabel? hreadable]
        rfl
      · cases h
  · split at h
    · cases h
      exact isAscii_asciiForm cs
    · cases h

/-- Every name is written in ASCII. -/
theorem isAscii_of_parse (h : parse cs = .ok name) : name.all isAscii = true := by
  unfold parse at h
  split at h
  · cases h
  · dsimp only at h
    split at h
    · cases h
    · split at h
      · cases h
      · next labels hlabels =>
          obtain rfl := Except.ok.inj h
          obtain ⟨found, hfound, hchecked⟩ := Option.bind_eq_some_iff.mp hlabels
          have hsame : found = labels := by
            dsimp only at hchecked
            split at hchecked
            · cases hchecked
            · exact Option.some.inj hchecked
          subst hsame
          apply isAscii_join rfl
          rintro _ hpart
          obtain ⟨label, hlabel, rfl⟩ := List.mem_map.mp hpart
          obtain ⟨text, -, hread⟩ := exists_of_mem_results hfound hlabel
          exact isAscii_of_readLabel? hread

example : (parse "Bücher.example".toList).toOption = some "xn--bcher-kva.example".toList := by
  decide +kernel

end Domain

end WorkloadIdentity.Url
