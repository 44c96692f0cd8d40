import Mathlib.Data.List.DropRight
import WorkloadIdentity.Text.Blank

/-!
Trimmed texts. Trimming takes blanks away and nothing else, and leaves none at either end.
-/

namespace WorkloadIdentity.Text

variable {c : Char} {cs rest front : List Char}

private theorem exists_trimStart (cs : List Char) :
    ∃ lead, (∀ c ∈ lead, isBlank c = true) ∧ cs = lead ++ trimStart cs :=
  ⟨cs.takeWhile isBlank, fun _ hc => List.mem_takeWhile_imp hc,
    List.takeWhile_append_dropWhile.symm⟩

private theorem exists_trimEnd (cs : List Char) :
    ∃ trail, (∀ c ∈ trail, isBlank c = true) ∧ cs = trimEnd cs ++ trail :=
  ⟨cs.rtakeWhile isBlank, fun _ hc => List.mem_rtakeWhile_imp hc,
    (List.rdropWhile_append_rtakeWhile (p := isBlank) (l := cs)).symm⟩

/-- Trimming takes nothing but blanks away. -/
theorem exists_trim (cs : List Char) :
    ∃ lead trail, (∀ c ∈ lead, isBlank c = true) ∧ (∀ c ∈ trail, isBlank c = true) ∧
      cs = lead ++ (trim cs ++ trail) := by
  obtain ⟨lead, hlead, hstart⟩ := exists_trimStart cs
  obtain ⟨trail, htrail, hend⟩ := exists_trimEnd (trimStart cs)
  exact ⟨lead, trail, hlead, htrail, by rw [trim, ← hend]; exact hstart⟩

/-- No blank begins a trimmed text, -/
theorem isBlank_of_trim_eq_cons (h : trim cs = c :: rest) : isBlank c = false := by
  obtain ⟨trail, -, htrail⟩ := exists_trimEnd (trimStart cs)
  have hstart : cs.dropWhile isBlank = c :: (rest ++ trail) := by
    rw [← List.cons_append, ← h]
    exact htrail
  have hhead := List.head?_dropWhile_not isBlank cs
  rw [hstart] at hhead
  simpa using hhead

/-- and none ends it. -/
theorem isBlank_of_trim_eq_concat (h : trim cs = front ++ [c]) : isBlank c = false := by
  have hne : (trimStart cs).rdropWhile isBlank ≠ [] := by
    intro hnil
    rw [trim, show trimEnd (trimStart cs) = [] from hnil] at h
    exact absurd h.symm (List.append_ne_nil_of_right_ne_nil front (List.cons_ne_nil c []))
  have hlast := List.rdropWhile_last_not isBlank _ hne
  have hend : (trimStart cs).rdropWhile isBlank = front ++ [c] := h
  simpa [hend] using hlast

/-- A text with none at either end is trimmed. -/
theorem trim_eq_self (hhead : ∀ c rest, cs = c :: rest → isBlank c = false)
    (hlast : ∀ front c, cs = front ++ [c] → isBlank c = false) : trim cs = cs := by
  have hstart : trimStart cs = cs := by
    cases cs with
    | nil => rfl
    | cons c rest => rw [trimStart, List.dropWhile_cons_of_neg (by simp [hhead c rest rfl])]
  rw [trim, hstart]
  apply List.rdropWhile_eq_self_iff.mpr
  intro hne
  simp [hlast _ _ (List.dropLast_concat_getLast hne).symm]

theorem trim_trim (cs : List Char) : trim (trim cs) = trim cs :=
  trim_eq_self (fun _ _ => isBlank_of_trim_eq_cons) (fun _ _ => isBlank_of_trim_eq_concat)

theorem trim_of_forall (h : ∀ c ∈ cs, isBlank c = false) : trim cs = cs :=
  trim_eq_self (fun _ _ hcs => h _ (by simp [hcs])) (fun _ _ hcs => h _ (by simp [hcs]))

private theorem trimEnd_append_of_forall (cs : List Char) (h : ∀ c ∈ rest, isBlank c = true) :
    trimEnd (cs ++ rest) = trimEnd cs := by
  have hback : ∀ c ∈ rest.reverse, isBlank c = true := fun c hc => h c (List.mem_reverse.mp hc)
  rw [trimEnd, trimEnd, List.reverse_append, List.dropWhile_append_of_pos hback]

/-- Blanks behind a text are trimmed. -/
theorem trim_append_of_forall (cs : List Char) (h : ∀ c ∈ rest, isBlank c = true) :
    trim (cs ++ rest) = trim cs := by
  unfold trim trimStart
  rw [List.dropWhile_append]
  split
  · next hblank =>
      rw [List.isEmpty_iff.mp hblank, List.dropWhile_eq_nil_iff.mpr h]
  · exact trimEnd_append_of_forall _ h

end WorkloadIdentity.Text
