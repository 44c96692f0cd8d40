import WorkloadIdentity.Proofs.Text.Parts
import WorkloadIdentity.Settings.Derived

/-!
Reading host identities. `Spells` says what an identity is written as; that is what is read, and
all that is. What is read is written as it was, and its two halves together are the text with
points for slashes, cut in front of the last three segments, or of all that there are.
-/

namespace WorkloadIdentity

namespace HostIdentity

variable {raw : String} {segments : List (List Char)} {h : HostIdentity}

/-- The text is `host` and the segments behind it, each with a slash in front of it. There is at
least one, and none of them is empty or has a slash in it. -/
structure Spells (segments : List (List Char)) (raw : String) : Prop where
  nonempty : segments ≠ []
  filled : ∀ s ∈ segments, s ≠ []
  whole : ∀ s ∈ segments, '/' ∉ s
  text : raw.toList = "host".toList ++ segments.flatMap ('/' :: ·)

theorem spells_iff (hne : segments ≠ []) (hfilled : ∀ s ∈ segments, s ≠ []) :
    Spells segments raw ↔ Text.splitOn '/' raw.toList = hostSegment :: segments := by
  have hhost : '/' ∉ hostSegment := by decide
  rw [Text.splitOn_eq_iff, Text.join_cons_eq_flatMap, List.forall_mem_cons]
  constructor
  · intro h
    exact ⟨List.cons_ne_nil _ _, ⟨hhost, h.whole⟩, h.text⟩
  · rintro ⟨-, ⟨-, hwhole⟩, htext⟩
    exact ⟨hne, hfilled, hwhole, htext⟩

theorem parse_eq_ok_iff_splitOn :
    parse raw = .ok h ↔ Text.splitOn '/' raw.toList = hostSegment :: h.segments := by
  unfold parse
  constructor
  · intro hparse
    split at hparse
    · cases hparse
    · next first segments hsplit =>
        split at hparse
        · cases hparse
        · next hfirst =>
            split at hparse
            · cases hparse
            · split at hparse
              · cases hparse
              · split at hparse
                · cases hparse
                  rw [hsplit, not_not.mp hfirst]
                · cases hparse
  · intro hsplit
    have hsome : ¬h.segments.all (·.isEmpty) = true := by
      obtain ⟨s, hs⟩ := List.exists_mem_of_ne_nil h.segments h.nonempty
      intro hall
      exact h.filled s hs (List.isEmpty_iff.mp (List.all_eq_true.mp hall s hs))
    rw [hsplit]
    dsimp only
    rw [if_neg (not_not_intro rfl), dif_neg h.nonempty, if_neg hsome, dif_pos h.filled]

theorem parse_eq_ok_iff : parse raw = .ok h ↔ Spells h.segments raw := by
  rw [parse_eq_ok_iff_splitOn, spells_iff h.nonempty h.filled]

/-- An identity is written as it was read. -/
theorem full_of_parse (hparse : parse raw = .ok h) : h.full = raw := by
  rw [full, ← parse_eq_ok_iff_splitOn.mp hparse, Text.join_splitOn, Text.remark_self,
    String.ofList_toList]

/-- The leaf has the last segments, three of them if there are as many. -/
theorem exists_leaf (h : HostIdentity) : ∃ front last, h.segments = front ++ last ∧
    last.length = min 3 h.segments.length ∧
      h.policy = String.ofList (Text.join ['.'] (hostSegment :: front)) ∧
        h.leaf = String.ofList (Text.join ['.'] last) := by
  refine ⟨h.segments.take h.policyLength, h.segments.drop h.policyLength, ?_, ?_, rfl, rfl⟩
  · rw [List.take_append_drop]
  · rw [List.length_drop, policyLength, leafSegments]
    omega

/-- The two halves are the identity with points for slashes. -/
theorem halves_of_parse (hparse : parse raw = .ok h) :
    h.policy.toList ++ '.' :: h.leaf.toList = Text.remark '/' '.' raw.toList := by
  obtain ⟨front, last, hsegments, hlength, hpolicy, hleaf⟩ := h.exists_leaf
  have hlast : last ≠ [] := by
    have hpositive := List.length_pos_iff.mpr h.nonempty
    rw [← List.length_pos_iff]
    omega
  rw [hpolicy, hleaf, String.toList_ofList, String.toList_ofList, ← Text.join_splitOn,
    parse_eq_ok_iff_splitOn.mp hparse, hsegments, ← List.cons_append,
    Text.join_append (List.cons_ne_nil _ _) hlast, List.append_assoc]
  rfl

end HostIdentity

/-- Settings with a text that is no identity are refused by the failure that its reading gives. -/
theorem CertificateSettings.ofSettings_of_no_identity {raw : String} {failure : Failure}
    {s : Settings} (hraw : s.identity? = some raw)
    (hidentity : (HostIdentity.parse raw).mapError (Failure.invalidIdentity raw) = .error failure)
    (fs : FileSystem) : ofSettings s fs = .error failure := by
  unfold ofSettings
  rw [hraw]
  change (HostIdentity.parse raw).mapError (Failure.invalidIdentity raw) >>= _ = _
  rw [hidentity]
  rfl

namespace HostIdentity

/-- A text is read exactly if it is `host` with one segment behind it or more, each of them behind
a slash and not empty. The identity is then written as it was read; its halves, with a point
between them, are the text with points for slashes; the leaf is made of the last segments, three of
them or as many as there are, and the policy of `host` and those before. Any other text is refused
by a failure that has it as it is. -/
theorem parse_splits_spelled (raw : String) :
    (∀ segments, Spells segments raw → ∃ h, parse raw = .ok h ∧ h.full = raw ∧
      h.policy ++ "." ++ h.leaf = String.ofList (Text.remark '/' '.' raw.toList) ∧
      ∃ front last, segments = front ++ last ∧ last.length = min 3 segments.length ∧
        h.policy = String.ofList (Text.join ['.'] ("host".toList :: front)) ∧
        h.leaf = String.ofList (Text.join ['.'] last)) ∧
    ((∀ segments, ¬Spells segments raw) → ∃ fault,
      (parse raw).mapError (Failure.invalidIdentity raw) = .error (.invalidIdentity raw fault) ∧
      ∀ s fs, s.identity? = some raw →
        CertificateSettings.ofSettings s fs = .error (.invalidIdentity raw fault)) := by
  constructor
  · intro segments hspells
    let h : HostIdentity := ⟨segments, hspells.nonempty, hspells.filled⟩
    have hparse : parse raw = .ok h := parse_eq_ok_iff.mpr hspells
    refine ⟨h, hparse, full_of_parse hparse, ?_, h.exists_leaf⟩
    apply String.toList_inj.mp
    rw [String.toList_ofList, ← halves_of_parse hparse, String.toList_append, String.toList_append,
      List.append_assoc]
    rfl
  · intro hnone
    cases hparse : parse raw with
    | ok h => exact absurd (parse_eq_ok_iff.mp hparse) (hnone h.segments)
    | error fault =>
        refine ⟨fault, rfl, fun s fs hraw => ?_⟩
        apply CertificateSettings.ofSettings_of_no_identity hraw
        rw [hparse]
        rfl

end HostIdentity

end WorkloadIdentity
