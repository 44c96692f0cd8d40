import WorkloadIdentity.Proofs.Settings.Overlay

/-!
What is at the end of a path of names. Where the upper of two values has records along a path, the
value at its end is the upper one's over the lower one's, and either of them alone where the other
has none. So what is put under a path is seen under that path and under no other.
-/

namespace WorkloadIdentity

namespace Fields

variable {name : String} {value : Value} {fields lower upper : Fields}

theorem get?_insert_self : get? name (insert name value fields) = some value := by
  induction fields with
  | nil => exact get?_cons_self
  | cons field fields ih =>
      rw [insert]
      split
      · exact get?_cons_self
      · next hne =>
          split
          · exact get?_cons_self
          · rw [get?_cons_ne (Ne.symm hne), ih]

theorem get?_overlayFields (h : upper.names.Nodup) :
    get? name (Value.overlayFields lower upper) =
      Option.merge Value.overlay (get? name lower) (get? name upper) := by
  induction upper generalizing lower with
  | nil =>
      rw [Value.overlayFields]
      exact (Option.merge_none_right).symm
  | cons field rest ih =>
      obtain ⟨hfield, hrest⟩ := List.nodup_cons.mp h
      rw [Value.overlayFields_cons, ih hrest]
      by_cases hname : field.1 = name
      · subst hname
        rw [get?_insert_self, get?_cons_self, get?_eq_none_iff.mpr hfield, Value.joined]
        cases get? field.1 lower with
        | none => rfl
        | some _ => rfl
      · rw [get?_insert_ne hname, get?_cons_ne hname]

theorem sorted_overlayFields (h : Sorted lower) : Sorted (Value.overlayFields lower upper) := by
  induction upper generalizing lower with
  | nil =>
      rw [Value.overlayFields]
      exact h
  | cons field rest ih =>
      rw [Value.overlayFields_cons]
      exact ih (sorted_insert _ _ h)

end Fields

namespace Value

variable {value lower upper : Value} {name : String} {path : List String}

/-- What is at the end of a path through records. -/
def find? : Value → List String → Option Value
  | value, [] => some value
  | .record fields, name :: path => (Fields.get? name fields).bind (find? · path)
  | _, _ :: _ => none
termination_by structural _ path => path

theorem find?_nil : value.find? [] = some value := by
  cases value with
  | _ => rfl

theorem find?_cons : (record fields).find? (name :: path) =
    (Fields.get? name fields).bind (·.find? path) := rfl

theorem find?_of_not_record (h : value.isRecord = false) : value.find? (name :: path) = none := by
  cases value with
  | record _ => cases h
  | _ => rfl

/-- All that is above the end of a path is records. -/
def Leads : Value → List String → Prop
  | _, [] => True
  | .record fields, name :: path =>
    Fields.Sorted fields ∧ ∀ inner, Fields.get? name fields = some inner → Leads inner path
  | _, _ :: _ => False
termination_by structural _ path => path

theorem leads_nil : value.Leads [] := by
  cases value with
  | _ => trivial

theorem leads_cons_iff : value.Leads (name :: path) ↔ ∃ fields, value = .record fields ∧
    Fields.Sorted fields ∧ ∀ inner, Fields.get? name fields = some inner → inner.Leads path := by
  cases value with
  | record fields =>
      constructor
      · intro h
        exact ⟨fields, rfl, h⟩
      · rintro ⟨_, ⟨⟩, h⟩
        exact h
  | _ => exact ⟨False.elim, nofun⟩

/-! ### Put over one another -/

/-- At the end of a path is what the upper value has there, over what the lower one has. -/
theorem find?_overlay (h : upper.Leads path) :
    (lower.overlay upper).find? path =
      Option.merge overlay (lower.find? path) (upper.find? path) := by
  induction path generalizing lower upper with
  | nil => rw [find?_nil, find?_nil, find?_nil, Option.merge_some_some]
  | cons name path ih =>
      obtain ⟨up, rfl, hsorted, hinner⟩ := leads_cons_iff.mp h
      cases hrecord : lower.isRecord with
      | false =>
          rw [overlay_of_lower hrecord, find?_of_not_record hrecord, Option.merge_none_left]
      | true =>
          cases lower with
          | record low =>
              simp only [overlay, find?_cons,
                Fields.get?_overlayFields (Fields.nodup_names hsorted)]
              cases hlow : Fields.get? name low with
              | none => simp
              | some old =>
                  cases hup : Fields.get? name up with
                  | none => simp
                  | some new => simpa using ih (hinner new hup)
          | _ => cases hrecord

theorem leads_overlay (hlower : lower.Leads path) (hupper : upper.Leads path) :
    (lower.overlay upper).Leads path := by
  induction path generalizing lower upper with
  | nil => exact leads_nil
  | cons name path ih =>
      obtain ⟨low, rfl, hlow, hold⟩ := leads_cons_iff.mp hlower
      obtain ⟨up, rfl, hup, hnew⟩ := leads_cons_iff.mp hupper
      rw [overlay]
      refine leads_cons_iff.mpr ⟨_, rfl, Fields.sorted_overlayFields hlow, ?_⟩
      intro inner hinner
      rw [Fields.get?_overlayFields (Fields.nodup_names hup)] at hinner
      cases hl : Fields.get? name low with
      | none =>
          rw [hl, Option.merge_none_left] at hinner
          exact hnew inner hinner
      | some old =>
          cases hu : Fields.get? name up with
          | none =>
              rw [hl, hu, Option.merge_none_right] at hinner
              exact hold inner (hl.trans hinner)
          | some new =>
              rw [hl, hu, Option.merge_some_some] at hinner
              obtain rfl := Option.some.inj hinner
              exact ih (hold old hl) (hnew new hu)

end Value

end WorkloadIdentity
