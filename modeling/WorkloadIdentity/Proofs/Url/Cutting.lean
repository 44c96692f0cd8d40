import Mathlib.Data.List.DropRight
import WorkloadIdentity.Url.Parser

/-!
What becomes of a text when more is appended to it. Each cut of the reader looks for one character
and keeps what stands before it, so a cut that is found in the front is found at the same place in
the whole; where it is not found, what is appended belongs to the part that is read.
-/

namespace WorkloadIdentity.Url

variable {front back cs more : List Char}

/-! ### Runs -/

private theorem takeWhile_append_of_stop {p : Char → Bool} (h : cs.dropWhile p ≠ []) :
    (cs ++ more).takeWhile p = cs.takeWhile p := by
  have hshort : (cs.takeWhile p).length ≠ cs.length := by
    intro hlength
    apply h
    have hsum : (cs.takeWhile p).length + (cs.dropWhile p).length = cs.length := by
      rw [← List.length_append, List.takeWhile_append_dropWhile]
    apply List.eq_nil_of_length_eq_zero
    omega
  rw [List.takeWhile_append, if_neg hshort]

theorem dropWhile_append_of_stop {p : Char → Bool} (h : cs.dropWhile p ≠ []) :
    (cs ++ more).dropWhile p = cs.dropWhile p ++ more := by
  rw [List.dropWhile_append, if_neg]
  simpa using h

private theorem dropWhile_ne_nil {p : Char → Bool} (h : ∃ c ∈ cs, p c = false) :
    cs.dropWhile p ≠ [] := by
  obtain ⟨c, hc, hp⟩ := h
  intro hnil
  have hall := List.dropWhile_eq_nil_iff.mp hnil c hc
  rw [hp] at hall
  cases hall

theorem takeWhile_of_all {p : Char → Bool} (h : ∀ c ∈ cs, p c = true) : cs.takeWhile p = cs :=
  List.takeWhile_eq_self_iff.mpr h

/-! ### The ends of the text -/

/-- What the reader drops from the end of a text, apart from tabs and line breaks, which it drops
everywhere. -/
def droppedEnd (cs : List Char) : List Char :=
  (cs.rtakeWhile isEdge).filter fun c => !isTabOrBreak c

theorem clean_eq (cs : List Char) :
    clean cs = ((cs.dropWhile isEdge).rdropWhile isEdge).filter fun c => !isTabOrBreak c := rfl

private theorem rdropWhile_append_of_stop (h : ∃ c ∈ back, isEdge c = false) :
    (front ++ back).rdropWhile isEdge = front ++ back.rdropWhile isEdge := by
  have hstop : back.reverse.dropWhile isEdge ≠ [] := by
    apply dropWhile_ne_nil
    simpa using h
  simp only [List.rdropWhile, List.reverse_append, dropWhile_append_of_stop hstop,
    List.reverse_reverse]

private theorem rtakeWhile_append_of_stop (front : List Char) (h : ∃ c ∈ back, isEdge c = false) :
    (front ++ back).rtakeWhile isEdge = back.rtakeWhile isEdge := by
  have hstop : back.reverse.dropWhile isEdge ≠ [] := by
    apply dropWhile_ne_nil
    simpa using h
  simp only [List.rtakeWhile, List.reverse_append, takeWhile_append_of_stop hstop]

private theorem exists_mem_dropWhile {p : Char → Bool} (h : ∃ c ∈ cs, p c = false) :
    ∃ c ∈ cs.dropWhile p, p c = false := by
  obtain ⟨c, hc, hp⟩ := h
  rw [← List.takeWhile_append_dropWhile (p := p) (l := cs)] at hc
  rcases List.mem_append.mp hc with hc | hc
  · rw [List.mem_takeWhile_imp hc] at hp
    cases hp
  · exact ⟨c, hc, hp⟩

/-- What was dropped from the end of the front stands inside the whole and stays. -/
theorem clean_append (hfront : ∃ c ∈ front, isEdge c = false)
    (hback : ∃ c ∈ back, isEdge c = false) :
    clean (front ++ back) =
      clean front ++ (droppedEnd front ++ (back.rdropWhile isEdge).filter (!isTabOrBreak ·)) := by
  have hinner := exists_mem_dropWhile hfront
  have hend : (front.dropWhile isEdge).rtakeWhile isEdge = front.rtakeWhile isEdge := by
    rw [← rtakeWhile_append_of_stop (front.takeWhile isEdge) hinner,
      List.takeWhile_append_dropWhile]
  rw [clean_eq, clean_eq, dropWhile_append_of_stop (dropWhile_ne_nil hfront),
    rdropWhile_append_of_stop hback, List.filter_append]
  conv_lhs => rw [← List.rdropWhile_append_rtakeWhile (p := isEdge)
    (l := front.dropWhile isEdge)]
  rw [List.filter_append, hend, droppedEnd, List.append_assoc]

theorem clean_append_of_edges (hback : ∀ c ∈ back, isEdge c = true) :
    clean (front ++ back) = clean front := by
  have hstart : back.dropWhile isEdge = [] := List.dropWhile_eq_nil_iff.mpr hback
  have hend : back.reverse.dropWhile isEdge = [] := by
    apply List.dropWhile_eq_nil_iff.mpr
    simpa using hback
  rw [clean_eq, clean_eq, List.dropWhile_append]
  split
  · next hnil => rw [hstart, List.isEmpty_iff.mp hnil]
  · have hinner : (front.dropWhile isEdge ++ back).rdropWhile isEdge =
        (front.dropWhile isEdge).rdropWhile isEdge := by
      simp only [List.rdropWhile, List.reverse_append, List.dropWhile_append, hend,
        List.isEmpty_nil, if_true]
    rw [hinner]

theorem clean_of_edges_append (hfront : ∀ c ∈ front, isEdge c = true) :
    clean (front ++ back) = clean back := by
  have hnil : front.dropWhile isEdge = [] := List.dropWhile_eq_nil_iff.mpr hfront
  rw [clean_eq, clean_eq, List.dropWhile_append, hnil]
  rfl

theorem exists_inside_of_clean (h : clean cs ≠ []) : ∃ c ∈ cs, isEdge c = false := by
  by_contra hnone
  apply h
  have hedges : ∀ c ∈ cs, isEdge c = true := by
    intro c hc
    cases hedge : isEdge c with
    | true => rfl
    | false => exact absurd ⟨c, hc, hedge⟩ hnone
  have hclean : clean (cs ++ []) = clean [] := clean_of_edges_append hedges
  rw [List.append_nil] at hclean
  exact hclean

theorem isEdge_of_isTabOrBreak {c : Char} (h : isTabOrBreak c = true) : isEdge c = true := by
  simp only [isTabOrBreak, Bool.or_eq_true, beq_iff_eq] at h
  rcases h with (rfl | rfl) | rfl
  · decide
  · decide
  · decide

theorem clean_subset {c : Char} (h : c ∈ clean cs) : c ∈ cs := by
  rw [clean_eq] at h
  have hinner := (List.mem_filter.mp h).1
  exact (List.dropWhile_suffix _).subset
    ((List.rdropWhile_prefix (p := isEdge) (l := cs.dropWhile isEdge)).subset hinner)

/-- Only controls and spaces are ever dropped. -/
theorem mem_clean_iff {c : Char} (h : isEdge c = false) : c ∈ clean cs ↔ c ∈ cs := by
  have hkept : (!isTabOrBreak c) = true := by
    cases htab : isTabOrBreak c with
    | false => rfl
    | true =>
        rw [isEdge_of_isTabOrBreak htab] at h
        cases h
  have hstart {l : List Char} : c ∈ l.dropWhile isEdge ↔ c ∈ l := by
    conv_rhs => rw [← List.takeWhile_append_dropWhile (p := isEdge) (l := l)]
    rw [List.mem_append]
    constructor
    · exact Or.inr
    · rintro (hrun | hrest)
      · rw [List.mem_takeWhile_imp hrun] at h
        cases h
      · exact hrest
  rw [clean_eq, List.mem_filter, List.rdropWhile, List.mem_reverse, hstart, List.mem_reverse,
    hstart]
  exact and_iff_left hkept

theorem of_mem_droppedEnd {c : Char} (h : c ∈ droppedEnd cs) :
    isEdge c = true ∧ isTabOrBreak c = false := by
  obtain ⟨hrun, hkept⟩ := List.mem_filter.mp h
  exact ⟨List.mem_rtakeWhile_imp hrun, by simpa using hkept⟩

/-! ### The cuts -/

theorem cutScheme?_append {scheme rest : List Char} (h : cutScheme? cs = some (scheme, rest)) :
    cutScheme? (cs ++ more) = some (scheme, rest ++ more) := by
  simp only [cutScheme?] at h ⊢
  split at h
  · next first behind hfirst hcolon =>
      have hstop : cs.dropWhile isSchemeChar ≠ [] := by
        rw [hcolon]
        exact List.cons_ne_nil _ _
      rw [takeWhile_append_of_stop hstop, dropWhile_append_of_stop hstop, hfirst, hcolon]
      split at h
      · next halpha =>
          cases h
          simp only [List.cons_append, halpha, if_true]
      · cases h
  · cases h

theorem cutLast?_append {sep : Char} (h : sep ∉ more) :
    Text.cutLast? sep (cs ++ more) =
      (Text.cutLast? sep cs).map fun (before, after) => (before, after ++ more) := by
  have hrun : ∀ c ∈ more.reverse, (c != sep) = true := by
    intro c hc
    rw [bne_iff_ne]
    rintro rfl
    exact h (List.mem_reverse.mp hc)
  have htake : (cs ++ more).reverse.takeWhile (· != sep) =
      more.reverse ++ cs.reverse.takeWhile (· != sep) := by
    rw [List.reverse_append, List.takeWhile_append_of_pos hrun]
  have hdrop : (cs ++ more).reverse.dropWhile (· != sep) = cs.reverse.dropWhile (· != sep) := by
    rw [List.reverse_append, List.dropWhile_append_of_pos hrun]
  have hcontains : (cs ++ more).contains sep = cs.contains sep := by
    simp [h]
  simp only [Text.cutLast?, htake, hdrop, hcontains]
  split
  · simp only [Option.map_some, List.reverse_append, List.reverse_reverse]
  · rfl

/-- A host that runs to the end of the front goes on behind it. -/
theorem cutHost_append_of_nil {inBrackets : Bool} (hmore : ':' ∉ more)
    (h : (cutHost inBrackets cs).2 = []) :
    cutHost inBrackets (cs ++ more) = ((cutHost inBrackets cs).1 ++ more, []) := by
  induction cs generalizing inBrackets with
  | nil =>
      induction more generalizing inBrackets with
      | nil => rfl
      | cons c more ih =>
          have hc : (c == ':') = false := by
            rw [beq_eq_false_iff_ne]
            rintro rfl
            exact hmore List.mem_cons_self
          have hrest (b : Bool) : cutHost b more = (more, []) :=
            ih (fun hmem => hmore (List.mem_cons_of_mem _ hmem)) rfl
          simp only [List.nil_append, cutHost, hc, Bool.false_and, Bool.false_eq_true, if_false,
            hrest]
  | cons c cs ih =>
      simp only [List.cons_append, cutHost] at h ⊢
      split at h
      · cases h
      · next hstop =>
          simp only [if_neg hstop, ih h, List.cons_append]

theorem cutHost_append_of_ne_nil {inBrackets : Bool} (h : (cutHost inBrackets cs).2 ≠ []) :
    cutHost inBrackets (cs ++ more) =
      ((cutHost inBrackets cs).1, (cutHost inBrackets cs).2 ++ more) := by
  induction cs generalizing inBrackets with
  | nil => exact absurd rfl h
  | cons c cs ih =>
      simp only [List.cons_append, cutHost] at h ⊢
      split at h
      · next hstop => simp only [if_pos hstop, List.cons_append]
      · next hstop => simp only [if_neg hstop, ih h]

/-- The text behind the host begins with a colon. -/
theorem cutHost_tail {inBrackets : Bool} (h : (cutHost inBrackets cs).2 ≠ []) :
    ∃ rest, (cutHost inBrackets cs).2 = ':' :: rest ∧ ':' :: rest <:+ cs := by
  induction cs generalizing inBrackets with
  | nil => exact absurd rfl h
  | cons c cs ih =>
      simp only [cutHost] at h ⊢
      split at h
      · next hstop =>
          rw [if_pos hstop]
          obtain ⟨rfl, _⟩ : c = ':' ∧ inBrackets = false := by simpa using hstop
          exact ⟨cs, rfl, List.suffix_refl _⟩
      · next hstop =>
          simp only [if_neg hstop]
          obtain ⟨rest, htail, hsuffix⟩ := ih h
          exact ⟨rest, htail, hsuffix.trans (List.suffix_cons _ _)⟩

end WorkloadIdentity.Url
