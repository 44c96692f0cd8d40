import Mathlib.Data.String.Basic
import WorkloadIdentity.Value

/-!
Records put over one another. The fields of the result are those of the lower record whose names the
upper one does not have, and those of the upper one, each joined with what stood below it.
-/

namespace WorkloadIdentity

namespace Fields

variable {name other : String} {value : Value} {fields : Fields}

/-- The form of a record: distinct names, in order. -/
def Sorted (fields : Fields) : Prop := fields.Pairwise fun f g => f.1 < g.1

def names (fields : Fields) : List String := fields.map Prod.fst

theorem nodup_names (h : Sorted fields) : fields.names.Nodup := by
  apply List.pairwise_map.mpr
  apply h.imp
  intro f g hlt
  exact ne_of_lt hlt

/-! ### Fields by name -/

theorem get?_cons_self : get? name ((name, value) :: fields) = some value := by
  simp [get?]

theorem get?_cons_ne (h : other ≠ name) :
    get? name ((other, value) :: fields) = get? name fields := by
  simp [get?, h]

theorem get?_eq_none_iff : get? name fields = none ↔ name ∉ fields.names := by
  simp only [get?, Option.map_eq_none_iff, List.find?_eq_none, beq_iff_eq, names, List.mem_map,
    not_exists, not_and]

theorem mem_of_get? (h : get? name fields = some value) : (name, value) ∈ fields := by
  simp only [get?, Option.map_eq_some_iff] at h
  obtain ⟨field, hfind, rfl⟩ := h
  have hname : field.1 = name := by simpa using List.find?_some hfind
  rw [← hname]
  exact List.mem_of_find?_eq_some hfind

theorem get?_of_mem (h : fields.names.Nodup) (hmem : (name, value) ∈ fields) :
    get? name fields = some value := by
  induction fields with
  | nil => cases hmem
  | cons field fields ih =>
      obtain ⟨hfield, hrest⟩ := List.nodup_cons.mp h
      rcases List.mem_cons.mp hmem with rfl | hmem
      · exact get?_cons_self
      · have hne : field.1 ≠ name := by
          rintro rfl
          exact hfield (List.mem_map.mpr ⟨_, hmem, rfl⟩)
        rw [get?_cons_ne hne]
        exact ih hrest hmem

/-- Without fields of a name a record is what it is. -/
theorem filter_ne_of_not_mem (h : name ∉ fields.names) :
    fields.filter (fun f => f.1 ≠ name) = fields := by
  apply List.filter_eq_self.mpr
  intro f hf
  simp only [ne_eq, decide_eq_true_eq]
  rintro rfl
  exact h (List.mem_map_of_mem hf)

theorem get?_insert_ne (h : other ≠ name) :
    get? name (insert other value fields) = get? name fields := by
  induction fields with
  | nil => exact get?_cons_ne h
  | cons field fields ih =>
      rw [insert]
      split
      · next hsame => rw [get?_cons_ne h, get?_cons_ne (hsame ▸ h)]
      · split
        · rw [get?_cons_ne h]
        · by_cases hfield : field.1 = name
          · subst hfield
            rw [get?_cons_self, get?_cons_self]
          · rw [get?_cons_ne hfield, get?_cons_ne hfield, ih]

theorem nodup_concat (h : fields.names.Nodup) (hname : get? name fields = none) :
    Fields.names (fields ++ [(name, value)]) |>.Nodup := by
  rw [names, List.map_append, ← names]
  apply List.nodup_append.mpr
  refine ⟨h, List.pairwise_singleton _ _, ?_⟩
  rintro other hother _ hlast rfl
  rw [List.mem_singleton.mp hlast] at hother
  exact get?_eq_none_iff.mp hname hother

/-! ### Inserting -/

theorem mem_insert {field : String × Value} (h : field ∈ insert name value fields) :
    field = (name, value) ∨ field ∈ fields := by
  induction fields with
  | nil => exact Or.inl (List.mem_singleton.mp h)
  | cons first fields ih =>
      rw [insert] at h
      split at h
      · rcases List.mem_cons.mp h with rfl | h
        · exact Or.inl rfl
        · exact Or.inr (List.mem_cons_of_mem _ h)
      · split at h
        · exact List.mem_cons.mp h
        · rcases List.mem_cons.mp h with rfl | h
          · exact Or.inr List.mem_cons_self
          · exact (ih h).imp_right (List.mem_cons_of_mem _)

theorem sorted_insert (name : String) (value : Value) (h : Sorted fields) :
    Sorted (insert name value fields) := by
  induction fields with
  | nil => exact List.pairwise_singleton _ _
  | cons first fields ih =>
      obtain ⟨hfirst, hrest⟩ := List.pairwise_cons.mp h
      rw [insert]
      split
      · next hsame =>
          subst hsame
          exact List.pairwise_cons.mpr ⟨hfirst, hrest⟩
      · next hne =>
          split
          · next hlt =>
              apply List.pairwise_cons.mpr
              refine ⟨?_, h⟩
              intro field hfield
              rcases List.mem_cons.mp hfield with rfl | hfield
              · exact hlt
              · exact lt_trans hlt (hfirst field hfield)
          · next hle =>
              apply List.pairwise_cons.mpr
              refine ⟨?_, ih hrest⟩
              intro field hfield
              rcases mem_insert hfield with rfl | hfield
              · exact lt_of_le_of_ne (not_lt.mp hle) (Ne.symm hne)
              · exact hfirst field hfield

private theorem sorted_foldl_insert {pairs : List (String × Value)} (h : Sorted fields) :
    Sorted (pairs.foldl (fun fields (name, value) => insert name value fields) fields) := by
  induction pairs generalizing fields with
  | nil => exact h
  | cons pair pairs ih => exact ih (sorted_insert _ _ h)

theorem sorted_ofList (pairs : List (String × Value)) : Sorted (ofList pairs) :=
  sorted_foldl_insert List.Pairwise.nil

private theorem mem_foldl_insert {field : String × Value} {pairs : List (String × Value)}
    (h : field ∈ pairs.foldl (fun fields (name, value) => insert name value fields) fields) :
    field ∈ fields ∨ field ∈ pairs := by
  induction pairs generalizing fields with
  | nil => exact Or.inl h
  | cons pair pairs ih =>
      rcases ih h with hmem | hmem
      · rcases mem_insert hmem with rfl | hmem
        · exact Or.inr List.mem_cons_self
        · exact Or.inl hmem
      · exact Or.inr (List.mem_cons_of_mem _ hmem)

theorem mem_ofList {field : String × Value} {pairs : List (String × Value)}
    (h : field ∈ ofList pairs) : field ∈ pairs :=
  (mem_foldl_insert h).resolve_left List.not_mem_nil

/-- A field among the others, moved to the end. -/
theorem perm_of_get? (hnodup : fields.names.Nodup) (h : get? name fields = some value) :
    fields.Perm (fields.filter (fun f => f.1 ≠ name) ++ [(name, value)]) := by
  induction fields with
  | nil => cases h
  | cons field fields ih =>
      obtain ⟨hfield, hrest⟩ := List.nodup_cons.mp hnodup
      by_cases hname : field.1 = name
      · subst hname
        obtain rfl : field.2 = value := by
          rw [get?_cons_self] at h
          exact Option.some.inj h
        rw [List.filter_cons_of_neg (by simp), filter_ne_of_not_mem hfield]
        exact (List.perm_append_singleton field fields).symm
      · rw [get?_cons_ne hname] at h
        rw [List.filter_cons_of_pos (by simpa using hname), List.cons_append]
        exact (ih hrest h).cons field

/-- A new field takes the place of the one with its name. -/
theorem insert_perm (name : String) (value : Value) (h : Sorted fields) :
    (insert name value fields).Perm ((name, value) :: fields.filter fun f => f.1 ≠ name) := by
  induction fields with
  | nil => exact List.Perm.refl _
  | cons first fields ih =>
      obtain ⟨hfirst, hrest⟩ := List.pairwise_cons.mp h
      have hkeep (hbelow : ∀ f ∈ fields, name < f.1) :
          fields.filter (fun f => f.1 ≠ name) = fields := by
        apply filter_ne_of_not_mem
        intro hmem
        obtain ⟨f, hf, rfl⟩ := List.mem_map.mp hmem
        exact lt_irrefl _ (hbelow f hf)
      rw [insert]
      split
      · next hsame =>
          subst hsame
          rw [List.filter_cons_of_neg (by simp), hkeep hfirst]
      · next hne =>
          rw [List.filter_cons_of_pos (by simpa using Ne.symm hne)]
          split
          · next hlt => rw [hkeep fun f hf => lt_trans hlt (hfirst f hf)]
          · exact ((ih hrest).cons first).trans (List.Perm.swap _ _ _)

end Fields

namespace Value

variable {lower upper : Fields}

def isRecord : Value → Bool
  | .record _ => true
  | _ => false

/-- Only records are joined; anything else is replaced, -/
theorem overlay_of_lower {low : Value} (h : low.isRecord = false) (up : Value) :
    low.overlay up = up := by
  cases up with
  | record upper =>
      cases low with
      | record fields => cases h
      | _ => simp only [overlay]
  | _ => simp only [overlay]

/-- and so is a record by anything else. -/
theorem overlay_of_upper {up : Value} (h : up.isRecord = false) (low : Value) :
    low.overlay up = up := by
  cases up with
  | record upper => cases h
  | _ => simp only [overlay]

/-- A field of the upper record joined with the one below it. -/
def joined (lower : Fields) (field : String × Value) : String × Value :=
  match Fields.get? field.1 lower with
  | some old => (field.1, overlay old field.2)
  | none => field

theorem joined_fst (lower : Fields) (field : String × Value) :
    (joined lower field).1 = field.1 := by
  unfold joined
  split
  · rfl
  · rfl

/-- What is left of the lower fields under the upper ones. -/
def uncovered (lower upper : Fields) : Fields := lower.filter fun f => !upper.names.contains f.1

theorem mem_uncovered {field : String × Value} :
    field ∈ uncovered lower upper ↔ field ∈ lower ∧ field.1 ∉ upper.names := by
  simp only [uncovered, List.mem_filter, Bool.not_eq_true', List.contains_eq_mem,
    decide_eq_false_iff_not]

theorem nodup_uncovered (h : lower.names.Nodup) : (uncovered lower upper).names.Nodup :=
  (List.filter_sublist.map Prod.fst).nodup h

theorem overlayFields_cons (lower : Fields) (field : String × Value) (rest : Fields) :
    overlayFields lower (field :: rest) =
      overlayFields (Fields.insert field.1 (joined lower field).2 lower) rest := by
  rw [overlayFields, joined]
  cases Fields.get? field.1 lower with
  | none => rfl
  | some _ => rfl

private theorem joined_insert {name : String} {value : Value} {field : String × Value}
    (h : name ≠ field.1) : joined (Fields.insert name value lower) field = joined lower field := by
  unfold joined
  rw [Fields.get?_insert_ne h]

private theorem uncovered_insert {field : String × Value} {rest : Fields}
    (hlower : Fields.Sorted lower) (hfield : field.1 ∉ rest.names) :
    (uncovered (Fields.insert field.1 (joined lower field).2 lower) rest).Perm
      (joined lower field :: uncovered lower (field :: rest)) := by
  have hinsert := (Fields.insert_perm field.1 (joined lower field).2 hlower).filter
    fun f => !rest.names.contains f.1
  have hkept : (field.1, (joined lower field).2) = joined lower field := by
    rw [← joined_fst lower field]
  rw [List.filter_cons_of_pos (by simpa using hfield), hkept, List.filter_filter] at hinsert
  have hsame : lower.filter (fun f => !rest.names.contains f.1 && decide (f.1 ≠ field.1)) =
      uncovered lower (field :: rest) := by
    apply List.filter_congr
    intro f _
    rw [Bool.eq_iff_iff]
    simp [Fields.names, and_comm]
  rw [hsame] at hinsert
  exact hinsert

/-- The fields of two records put over one another. -/
theorem overlayFields_perm (hlower : Fields.Sorted lower) (hupper : upper.names.Nodup) :
    (overlayFields lower upper).Perm (uncovered lower upper ++ upper.map (joined lower)) := by
  induction upper generalizing lower with
  | nil =>
      have hall : uncovered lower [] = lower := by
        apply List.filter_eq_self.mpr
        intro f _
        simp [Fields.names]
      rw [overlayFields, List.map_nil, List.append_nil, hall]
  | cons field rest ih =>
      obtain ⟨hfield, hrest⟩ := List.nodup_cons.mp hupper
      have hmap : rest.map (joined (Fields.insert field.1 (joined lower field).2 lower)) =
          rest.map (joined lower) := by
        apply List.map_congr_left
        intro f hf
        apply joined_insert
        rintro hsame
        exact hfield (hsame ▸ List.mem_map_of_mem hf)
      have hinner := ih (Fields.sorted_insert field.1 (joined lower field).2 hlower) hrest
      rw [hmap] at hinner
      rw [overlayFields_cons, List.map_cons]
      apply hinner.trans
      apply ((uncovered_insert hlower hfield).append_right _).trans
      exact List.perm_middle.symm

theorem names_map_joined (lower upper : Fields) :
    Fields.names (upper.map (joined lower)) = upper.names := by
  rw [Fields.names, List.map_map]
  apply List.map_congr_left
  intro f _
  exact joined_fst lower f

theorem nodup_overlay (hlower : lower.names.Nodup) (hupper : upper.names.Nodup) :
    Fields.names (uncovered lower upper ++ upper.map (joined lower)) |>.Nodup := by
  rw [Fields.names, List.map_append, ← Fields.names, ← Fields.names, names_map_joined,
    List.nodup_append]
  refine ⟨nodup_uncovered hlower, hupper, ?_⟩
  rintro name hname _ hupper rfl
  obtain ⟨f, hf, rfl⟩ := List.mem_map.mp hname
  exact (mem_uncovered.mp hf).2 hupper

/-! ### Values of a body -/

theorem ofDecimal_ne_record (d : Decimal) (fields : Fields) : ofDecimal d ≠ .record fields := by
  intro h
  unfold ofDecimal at h
  split at h
  · split at h
    · cases h
    · split at h
      · cases h
      · cases h
  · cases h

/-- Only an object of a body is a record. -/
theorem members_of_ofJson? {json : Json} {fields : Fields}
    (h : ofJson? json = some (.record fields)) :
    ∃ members pairs, ofJsonMembers? members = some pairs ∧ fields = Fields.ofList pairs := by
  cases json with
  | null => cases h
  | bool _ => cases h
  | number d => exact absurd (Option.some.inj h) (ofDecimal_ne_record d fields)
  | text raw =>
      obtain ⟨_, _, h⟩ := Option.map_eq_some_iff.mp h
      cases h
  | array items =>
      rw [ofJson?] at h
      obtain ⟨_, _, h⟩ := Option.map_eq_some_iff.mp h
      cases h
  | object members =>
      rw [ofJson?] at h
      obtain ⟨pairs, hmembers, hpairs⟩ := Option.map_eq_some_iff.mp h
      cases hpairs
      exact ⟨members, pairs, hmembers, rfl⟩

theorem exists_json_of_mem {members : List (Bytes × Json)} {pairs : List (String × Value)}
    {field : String × Value} (h : ofJsonMembers? members = some pairs) (hfield : field ∈ pairs) :
    ∃ json, ofJson? json = some field.2 := by
  induction members generalizing pairs with
  | nil =>
      cases h
      cases hfield
  | cons member members ih =>
      simp only [ofJsonMembers?, Option.bind_eq_bind, Option.bind_eq_some_iff, Option.pure_def,
        Option.some.injEq] at h
      obtain ⟨name, _, value, hvalue, others, hothers, rfl⟩ := h
      rcases List.mem_cons.mp hfield with rfl | hfield
      · exact ⟨member.2, hvalue⟩
      · exact ih hothers hfield

/-- The records of a body have their form, -/
theorem sorted_of_ofJson? {json : Json} {fields : Fields}
    (h : ofJson? json = some (.record fields)) :
    Fields.Sorted fields := by
  obtain ⟨_, pairs, _, rfl⟩ := members_of_ofJson? h
  exact Fields.sorted_ofList pairs

/-- and so do the records in them. -/
theorem sorted_of_get?_ofJson? {json : Json} {fields inner : Fields} {name : String}
    (h : ofJson? json = some (.record fields))
    (hinner : Fields.get? name fields = some (.record inner)) : Fields.Sorted inner := by
  obtain ⟨_, pairs, hmembers, rfl⟩ := members_of_ofJson? h
  obtain ⟨json, hjson⟩ :=
    exists_json_of_mem hmembers (Fields.mem_ofList (Fields.mem_of_get? hinner))
  exact sorted_of_ofJson? hjson

end Value

end WorkloadIdentity
