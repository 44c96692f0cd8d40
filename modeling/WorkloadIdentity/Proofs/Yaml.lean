import WorkloadIdentity.Proofs.Fallible
import WorkloadIdentity.Proofs.Settings.Overlay
import WorkloadIdentity.Yaml.Fields

/-!
The records of a YAML document. A mapping is a record whose fields have distinct names, in order,
and so is what a tag of one's own makes of a node; a text is no record.
-/

namespace WorkloadIdentity.Yaml

variable {α β : Type} {d : Document} {fields : Fields}

/-! ### Readings that succeed -/

theorem run_bind_ok_iff {x : Unfold α} {f : α → Unfold β} {n m : Nat} {b : β} :
    (x >>= f).run n = .ok (b, m) ↔
      ∃ a k, x.run n = .ok (a, k) ∧ (f a).run k = .ok (b, m) := by
  rw [StateT.run_bind]
  cases x.run n with
  | error _ => exact ⟨nofun, nofun⟩
  | ok found =>
      constructor
      · intro h
        exact ⟨found.1, found.2, rfl, h⟩
      · rintro ⟨_, _, ⟨⟩, h⟩
        exact h

theorem exists_of_run' {x : Unfold α} {n : Nat} {a : α} (h : x.run' n = .ok a) :
    ∃ m, x.run n = .ok (a, m) := by
  obtain ⟨⟨_, m⟩, hrun, rfl⟩ := exists_of_map_ok (f := Prod.fst) h
  exact ⟨m, hrun⟩

theorem exists_of_mem_mapM {f : α → Unfold β} {xs : List α} {ys : List β} {n m : Nat}
    (h : (xs.mapM f).run n = .ok (ys, m)) {y : β} (hy : y ∈ ys) :
    ∃ x ∈ xs, ∃ k l, (f x).run k = .ok (y, l) := by
  induction xs generalizing ys n with
  | nil =>
      rw [List.mapM_nil] at h
      cases h
      cases hy
  | cons x xs ih =>
      rw [List.mapM_cons, run_bind_ok_iff] at h
      obtain ⟨first, k, hfirst, h⟩ := h
      obtain ⟨others, l, hothers, h⟩ := run_bind_ok_iff.mp h
      cases h
      rcases List.mem_cons.mp hy with rfl | hy
      · exact ⟨x, List.mem_cons_self, n, k, hfirst⟩
      · obtain ⟨z, hz, hread⟩ := ih hothers hy
        exact ⟨z, List.mem_cons_of_mem _ hz, hread⟩

/-! ### Texts are no records -/

theorem isRecord_integer? {text : List Char} {value : Value} (h : integer? text = some value) :
    value.isRecord = false := by
  have hpositive {unsigned : List Char} (h : integer?.positive unsigned = some value) :
      value.isRecord = false := by
    obtain ⟨_, _, rfl⟩ := Option.map_eq_some_iff.mp h
    rfl
  unfold integer? at h
  split at h
  · split at h
    · cases h
      rfl
    · split at h
      · cases h
        rfl
      · cases h
    · cases h
  · exact hpositive h
  · exact hpositive h

theorem isRecord_plainValue (text : List Char) : (plainValue text).isRecord = false := by
  unfold plainValue
  split
  · rfl
  · split
    · rfl
    · next hint _ => exact isRecord_integer? hint
    · split
      · rfl
      · rfl

/-- The value of a text that has to be of some kind. -/
theorem isRecord_of_kind {found : Option Value} {value : Value}
    (h : (match found with
      | some v => Except.ok v
      | none => Except.error Fault.tag) = .ok value)
    (hkind : ∀ v, found = some v → v.isRecord = false) : value.isRecord = false := by
  cases found with
  | none => cases h
  | some _ =>
      cases h
      exact hkind value rfl

theorem isRecord_of_map {f : α → Value} (hf : ∀ x, (f x).isRecord = false) {found : Option α}
    (value : Value) (h : found.map f = some value) : value.isRecord = false := by
  obtain ⟨x, _, rfl⟩ := Option.map_eq_some_iff.mp h
  exact hf x

theorem isRecord_taggedValue {tag : Bytes} {plain : Bool} {text : List Char} {value : Value}
    (h : taggedValue tag plain text = .ok value) : value.isRecord = false := by
  unfold taggedValue at h
  dsimp only at h
  split at h
  · exact isRecord_of_kind h (isRecord_of_map fun _ => rfl)
  · split at h
    · exact isRecord_of_kind h fun v hv => isRecord_integer? hv
    · split at h
      · exact isRecord_of_kind h (isRecord_of_map fun _ => rfl)
      · split at h
        · apply isRecord_of_kind h
          intro v hv
          split at hv
          · cases hv
            rfl
          · cases hv
        · split at h
          · cases h
            exact isRecord_plainValue text
          · cases h
            rfl

/-! ### Records have their form -/

theorem sorted_underTag {tag : Option Bytes} {value : Value}
    (hvalue : ∀ fields, value = .record fields → Fields.Sorted fields)
    (h : underTag tag value = .record fields) : Fields.Sorted fields := by
  unfold underTag at h
  split at h
  · cases h
    exact List.pairwise_singleton _ _
  · exact hvalue fields h

theorem sorted_scalarValue {tag : Option Bytes} {plain : Bool} {text : List Char}
    (h : scalarValue tag plain text = .ok (.record fields)) : Fields.Sorted fields := by
  unfold scalarValue at h
  split at h
  · cases h
    exact List.pairwise_singleton _ _
  · cases isRecord_taggedValue h
  · cases plain with
    | true =>
        have hplain := isRecord_plainValue text
        rw [show plainValue text = .record fields from Except.ok.inj h] at hplain
        cases hplain
    | false => cases h

theorem sorted_of_value {depth : Nat} {node : Node} {n m : Nat}
    (h : (d.value depth node).run n = .ok (.record fields, m)) : Fields.Sorted fields := by
  have hscalar {tag plain text k} (h : (liftM (scalarValue tag plain text) : Unfold Value).run k =
      .ok (.record fields, m)) : Fields.Sorted fields := by
    cases hvalue : scalarValue tag plain text with
    | error _ =>
        rw [hvalue] at h
        cases h
    | ok value =>
        rw [hvalue] at h
        cases h
        exact sorted_scalarValue hvalue
  cases depth with
  | zero =>
      rw [Document.value, run_bind_ok_iff] at h
      obtain ⟨found, k, _, h⟩ := h
      split at h
      · exact hscalar h
      · cases h
  | succ depth =>
      rw [Document.value, run_bind_ok_iff] at h
      obtain ⟨found, k, _, h⟩ := h
      split at h
      · exact hscalar h
      · obtain ⟨items, _, _, h⟩ := run_bind_ok_iff.mp h
        obtain ⟨hunder, _⟩ := Prod.mk.inj (Except.ok.inj h)
        apply sorted_underTag _ hunder
        rintro _ ⟨⟩
      · obtain ⟨pairs, _, _, h⟩ := run_bind_ok_iff.mp h
        obtain ⟨hunder, _⟩ := Prod.mk.inj (Except.ok.inj h)
        apply sorted_underTag _ hunder
        rintro _ ⟨⟩
        exact Fields.sorted_ofList pairs
      · cases h

/-- What a document names is a record, and so are the records in it. -/
theorem sorted_fields {text : List Char} (h : Yaml.fields text = .ok fields) :
    Fields.Sorted fields ∧ ∀ name inner, Fields.get? name fields = some (.record inner) →
      Fields.Sorted inner := by
  have hnil : Fields.Sorted [] := List.Pairwise.nil
  have hnone (name : String) (inner : Fields) (hget : Fields.get? name [] = some (.record inner)) :
      Fields.Sorted inner := nomatch hget
  unfold Yaml.fields at h
  split at h
  · next d _ =>
      unfold Document.fields at h
      split at h
      · cases h
        exact ⟨hnil, hnone⟩
      · cases h
        exact ⟨hnil, hnone⟩
      · next pairs _ =>
          dsimp only at h
          obtain ⟨found, hread, rfl⟩ := exists_of_map_ok h
          obtain ⟨state, hrun⟩ := exists_of_run' hread
          refine ⟨Fields.sorted_ofList found, ?_⟩
          intro name inner hget
          obtain ⟨pair, _, k, l, hpair⟩ :=
            exists_of_mem_mapM hrun (Fields.mem_ofList (Fields.mem_of_get? hget))
          obtain ⟨key, _, _, hpair⟩ := run_bind_ok_iff.mp hpair
          obtain ⟨value, _, hvalue, hpair⟩ := run_bind_ok_iff.mp hpair
          cases hpair
          exact sorted_of_value hvalue
      · cases h
  · cases h

end WorkloadIdentity.Yaml
