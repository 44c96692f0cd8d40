import WorkloadIdentity.Proofs.Retry.Undisturbed

/-!
The delays of a cycle and their cap. Whatever the factor makes of a delay, the cap cuts it before it
is given; but the cap is applied to what a delay grows to, and the first one has not grown. So the
first delay is the initial one even where that is above the cap, and all others are within it.
-/

namespace WorkloadIdentity

/-- However a delay grows, it grows to no more than the cap. -/
theorem Backoff.grow_le (cap : Duration) (factor : Floating) (last : Duration) :
    grow cap factor last ≤ cap := by
  unfold grow
  generalize (if last < cap then last.scale factor else last) = grown
  dsimp only
  split
  · exact Nat.le_refl cap.nanos
  · next hbelow => exact Nat.le_of_not_lt hbelow

namespace RetrySettings

variable {s : RetrySettings} {k count index : Nat} {delay : Duration}

theorem delay_succ_le (s : RetrySettings) (k : Nat) : s.delay (k + 1) ≤ s.maxBackoff :=
  Backoff.grow_le s.maxBackoff s.multiplier (s.delay k)

theorem next?_backoffAfter_of_not_allows (h : ¬s.Allows (k + 1)) :
    (s.backoffAfter k).next? = none := by
  obtain ⟨hpositive, hlast⟩ := not_or.mp h
  exact next?_backoffAfter_last (Nat.pos_of_ne_zero hpositive) (Nat.le_of_not_lt hlast)

theorem Allows.of_le {j : Nat} (h : s.Allows k) (hle : j ≤ k) : s.Allows j :=
  h.imp_right (Nat.lt_of_le_of_lt hle)

/-- The delays that are taken are those of the sequence, in their order and as long as there may be
another attempt. -/
theorem getElem?_take_iff :
    ((s.backoffAfter k).take count).1[index]? = some delay ↔
      index < count ∧ s.Allows (k + index + 1) ∧ s.delay (k + index) = delay := by
  induction count generalizing k index with
  | zero => simp [Backoff.take]
  | succ count ih =>
      by_cases hmore : s.Allows (k + 1)
      · have htake : ((s.backoffAfter k).take (count + 1)).1 =
            s.delay k :: ((s.backoffAfter (k + 1)).take count).1 := by
          rw [Backoff.take, next?_backoffAfter hmore]
        rw [htake]
        cases index with
        | zero => simp [hmore]
        | succ index =>
            have hposition : k + 1 + index = k + (index + 1) := by omega
            rw [List.getElem?_cons_succ, ih, hposition, Nat.succ_lt_succ_iff]
      · have htake : ((s.backoffAfter k).take (count + 1)).1 = [] := by
          rw [Backoff.take, next?_backoffAfter_of_not_allows hmore]
        have hnone : ¬s.Allows (k + index + 1) := fun hlater => hmore (hlater.of_le (by omega))
        simp [htake, hnone]

end RetrySettings

namespace Backoff

/-- All delays of a cycle are within the cap exactly if the initial one is, or there is no second
attempt to wait for. All but the first are within it whatever the settings say. -/
theorem delays_within_cap_iff (s : RetrySettings) :
    ((∀ (count index : Nat) (delay : Duration),
        ((ofSettings s).take count).1[index]? = some delay → delay ≤ s.maxBackoff) ↔
      s.maxAttempts = 1 ∨ s.initialBackoff ≤ s.maxBackoff) ∧
    ∀ (count index : Nat) (delay : Duration),
      ((ofSettings s).take count).1[index + 1]? = some delay → delay ≤ s.maxBackoff := by
  simp only [← RetrySettings.backoffAfter_zero, RetrySettings.getElem?_take_iff, Nat.zero_add]
  constructor
  · constructor
    · intro hwithin
      by_cases hfirst : s.Allows 1
      · exact Or.inr (hwithin 1 0 s.initialBackoff ⟨Nat.one_pos, hfirst, rfl⟩)
      · left
        unfold RetrySettings.Allows at hfirst
        omega
    · rintro hsettings count (_ | index) delay ⟨-, hmore, rfl⟩
      · rcases hsettings with hone | hinitial
        · unfold RetrySettings.Allows at hmore
          omega
        · exact hinitial
      · exact s.delay_succ_le index
  · rintro count index delay ⟨-, -, rfl⟩
    exact s.delay_succ_le index

/-- Settings with an initial delay that is longer than the longest one. -/
def eager : RetrySettings :=
  { RetrySettings.default with
    maxAttempts := 4, initialBackoff := .ofSecs 120, maxBackoff := .ofSecs 60 }

/-- The first delay is given as it is, and the cap applies from the second one on. -/
theorem first_delay_passes_cap :
    ((ofSettings eager).take 9).1 = [.ofSecs 120, .ofSecs 60, .ofSecs 60] ∧
      ¬∀ (count index : Nat) (delay : Duration),
        ((ofSettings eager).take count).1[index]? = some delay → delay ≤ eager.maxBackoff := by
  have hdelays : ((ofSettings eager).take 9).1 = [.ofSecs 120, .ofSecs 60, .ofSecs 60] := by
    decide +kernel
  refine ⟨hdelays, ?_⟩
  intro hwithin
  have hfirst : Duration.ofSecs 120 ≤ eager.maxBackoff := hwithin 9 0 _ (by rw [hdelays]; rfl)
  exact absurd hfirst (by decide)

end Backoff

end WorkloadIdentity
