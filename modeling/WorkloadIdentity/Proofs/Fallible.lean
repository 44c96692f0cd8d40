/-!
Computations that may fail. What succeeds as a whole has succeeded in each of its parts.
-/

namespace WorkloadIdentity

variable {ε α β : Type}

/-! ### Two parts -/

/-- What succeeds in two parts has succeeded in both. -/
theorem exists_of_bind_ok {first : Except ε α} {next : α → Except ε β} {result : β}
    (h : (first >>= next) = .ok result) :
    ∃ given, first = .ok given ∧ next given = .ok result := by
  cases first with
  | error fault => cases h
  | ok given => exact ⟨given, rfl, h⟩

theorem exists_of_map_ok {first : Except ε α} {f : α → β} {result : β}
    (h : first.map f = .ok result) : ∃ given, first = .ok given ∧ f given = result := by
  cases first with
  | error fault => cases h
  | ok given => exact ⟨given, rfl, Except.ok.inj h⟩

/-! ### A part for each element of a list -/

section Lists

variable {f : α → Option β} {xs : List α} {ys : List β} {x : α} {y : β}

/-- Every element has succeeded, and the results are in their places. -/
theorem map_of_mapM (h : xs.mapM f = some ys) : xs.map f = ys.map some := by
  induction xs generalizing ys with
  | nil =>
      cases h
      rfl
  | cons x xs ih =>
      rw [List.mapM_cons] at h
      obtain ⟨result, hresult, h⟩ := Option.bind_eq_some_iff.mp h
      obtain ⟨results, hresults, h⟩ := Option.bind_eq_some_iff.mp h
      cases h
      rw [List.map_cons, List.map_cons, hresult, ih hresults]

theorem length_of_mapM (h : xs.mapM f = some ys) : xs.length = ys.length := by
  simpa using congrArg List.length (map_of_mapM h)

theorem exists_of_mem (h : xs.mapM f = some ys) (hx : x ∈ xs) : ∃ y ∈ ys, f x = some y := by
  have hmem : f x ∈ ys.map some := map_of_mapM h ▸ List.mem_map_of_mem hx
  obtain ⟨y, hy, hresult⟩ := List.mem_map.mp hmem
  exact ⟨y, hy, hresult.symm⟩

theorem exists_of_mem_results (h : xs.mapM f = some ys) (hy : y ∈ ys) :
    ∃ x ∈ xs, f x = some y := by
  have hmem : some y ∈ xs.map f := map_of_mapM h ▸ List.mem_map_of_mem hy
  exact List.mem_map.mp hmem

end Lists

end WorkloadIdentity
