import Mathlib.Data.List.Pairwise
import WorkloadIdentity.Proofs.Settings.Overlay
import WorkloadIdentity.Settings.Reading

/-!
Reading a record in any order. Each setting has a place of its own in what is read, so fields with
distinct names can be read in any order. What is read in the dialect of a body can be read from
layers, too, and gives the same.
-/

namespace WorkloadIdentity

theorem Reader.under_ok_iff {α : Type} {key : String} {r : Except Problem α} {a : α} :
    Reader.under key r = .ok a ↔ r = .ok a := by
  cases r with
  | error _ => exact ⟨nofun, nofun⟩
  | ok _ => exact Iff.rfl

namespace Setting

variable {σ : Type} {settings : List (Setting σ)} {dialect : Dialect} {s t : σ}
  {field : String × Value} {fields rest : Fields}

/-! ### Field by field -/

/-- Puts one field of a record into `s`. -/
def putField (settings : List (Setting σ)) (dialect : Dialect) (s : σ) (field : String × Value) :
    Except Problem σ :=
  match settings.find? (·.key == field.1) with
  | some setting => Reader.under field.1 (setting.put dialect s field.2)
  | none => .ok s

theorem putFields_cons_ok_iff :
    putFields settings dialect s (field :: rest) = .ok t ↔
      ∃ s', putField settings dialect s field = .ok s' ∧
        putFields settings dialect s' rest = .ok t := by
  rw [putFields, putField]
  cases settings.find? (·.key == field.1) with
  | none => simp
  | some setting =>
      dsimp only
      cases Reader.under field.1 (setting.put dialect s field.2) with
      | error _ => exact ⟨nofun, nofun⟩
      | ok s' =>
          constructor
          · intro h
            exact ⟨s', rfl, h⟩
          · rintro ⟨_, ⟨⟩, h⟩
            exact h

theorem putFields_singleton_ok_iff :
    putFields settings dialect s [field] = .ok t ↔ putField settings dialect s field = .ok t := by
  rw [putFields_cons_ok_iff]
  constructor
  · rintro ⟨s', hfield, ⟨⟩⟩
    exact hfield
  · intro h
    exact ⟨t, h, rfl⟩

theorem putFields_append_ok_iff :
    putFields settings dialect s (fields ++ rest) = .ok t ↔
      ∃ s', putFields settings dialect s fields = .ok s' ∧
        putFields settings dialect s' rest = .ok t := by
  induction fields generalizing s with
  | nil => simp [putFields]
  | cons field fields ih =>
      simp only [List.cons_append, putFields_cons_ok_iff, ih]
      constructor
      · rintro ⟨s₁, h₁, s₂, h₂, h₃⟩
        exact ⟨s₂, ⟨s₁, h₁, h₂⟩, h₃⟩
      · rintro ⟨s₂, ⟨s₁, h₁, h₂⟩, h₃⟩
        exact ⟨s₁, h₁, s₂, h₂, h₃⟩

/-- Fields that change nothing can be left out. -/
theorem putFields_idle (h : ∀ field ∈ fields, putField settings dialect s field = .ok s) :
    putFields settings dialect s fields = .ok s := by
  induction fields with
  | nil => rfl
  | cons field fields ih =>
      apply putFields_cons_ok_iff.mpr
      exact ⟨s, h field List.mem_cons_self, ih fun other hother =>
        h other (List.mem_cons_of_mem _ hother)⟩

/-! ### In any order -/

/-- Two settings that do not touch each other's place. -/
def Commute (a b : Setting σ) : Prop :=
  ∀ dialect s v w t, (∃ s', a.put dialect s v = .ok s' ∧ b.put dialect s' w = .ok t) ↔
    ∃ s', b.put dialect s w = .ok s' ∧ a.put dialect s' v = .ok t

instance : Std.Symm (@Commute σ) where
  symm _ _ h dialect s v w t := (h dialect s w v t).symm

theorem of_put_ok_iff {α : Type} {key : String} {reader : Reader α} {store : σ → α → σ}
    {value : Value} :
    (Setting.of key reader store).put dialect s value = .ok t ↔
      ∃ x, reader dialect value = .ok x ∧ store s x = t := by
  change (reader dialect value).map (store s) = .ok t ↔ _
  cases reader dialect value with
  | error _ => exact ⟨nofun, nofun⟩
  | ok x => simp [Except.map]

theorem commute_of {α β : Type} {key₁ key₂ : String} {reader₁ : Reader α} {reader₂ : Reader β}
    {store₁ : σ → α → σ} {store₂ : σ → β → σ}
    (h : ∀ s x y, store₂ (store₁ s x) y = store₁ (store₂ s y) x) :
    Commute (.of key₁ reader₁ store₁) (.of key₂ reader₂ store₂) := by
  intro dialect s v w t
  simp only [of_put_ok_iff]
  constructor
  · rintro ⟨_, ⟨x, hx, rfl⟩, y, hy, rfl⟩
    exact ⟨_, ⟨y, hy, rfl⟩, x, hx, (h s x y).symm⟩
  · rintro ⟨_, ⟨y, hy, rfl⟩, x, hx, rfl⟩
    exact ⟨_, ⟨x, hx, rfl⟩, y, hy, h s x y⟩

theorem putField_comm {other : String × Value} (hcommute : settings.Pairwise Commute)
    (hne : field.1 ≠ other.1) {s' : σ} (hfirst : putField settings dialect s field = .ok s')
    (hsecond : putField settings dialect s' other = .ok t) :
    ∃ s', putField settings dialect s other = .ok s' ∧
      putField settings dialect s' field = .ok t := by
  unfold putField at hfirst hsecond ⊢
  cases ha : settings.find? (·.key == field.1) with
  | none =>
      rw [ha] at hfirst
      cases hfirst
      exact ⟨t, hsecond, rfl⟩
  | some a =>
      cases hb : settings.find? (·.key == other.1) with
      | none =>
          rw [ha] at hfirst
          rw [hb] at hsecond
          cases hsecond
          exact ⟨s, rfl, hfirst⟩
      | some b =>
          rw [ha, Reader.under_ok_iff] at hfirst
          rw [hb, Reader.under_ok_iff] at hsecond
          have hab : a ≠ b := by
            rintro rfl
            have hkey : a.key = field.1 := by simpa using List.find?_some ha
            have hkey' : a.key = other.1 := by simpa using List.find?_some hb
            exact hne (hkey.symm.trans hkey')
          have hpair : Commute a b :=
            hcommute.forall (List.mem_of_find?_eq_some ha) (List.mem_of_find?_eq_some hb) hab
          obtain ⟨s₁, hs₁, ht⟩ := (hpair dialect s field.2 other.2 t).mp ⟨s', hfirst, hsecond⟩
          exact ⟨s₁, Reader.under_ok_iff.mpr hs₁, Reader.under_ok_iff.mpr ht⟩

/-- The fields of a record can stand in any order. -/
theorem putFields_perm {fields' : Fields} (hcommute : settings.Pairwise Commute)
    (hperm : fields.Perm fields') (hnodup : fields.names.Nodup)
    (h : putFields settings dialect s fields = .ok t) :
    putFields settings dialect s fields' = .ok t := by
  induction hperm generalizing s with
  | nil => exact h
  | cons field _ ih =>
      obtain ⟨s', hfield, hrest⟩ := putFields_cons_ok_iff.mp h
      exact putFields_cons_ok_iff.mpr ⟨s', hfield, ih (List.nodup_cons.mp hnodup).2 hrest⟩
  | swap a b rest =>
      obtain ⟨s₁, hb, h⟩ := putFields_cons_ok_iff.mp h
      obtain ⟨s₂, ha, hrest⟩ := putFields_cons_ok_iff.mp h
      have hne : b.1 ≠ a.1 := by
        intro hsame
        apply (List.nodup_cons.mp hnodup).1
        rw [List.map_cons, ← hsame]
        exact List.mem_cons_self
      obtain ⟨s₁, ha, hb⟩ := putField_comm hcommute hne hb ha
      exact putFields_cons_ok_iff.mpr ⟨s₁, ha, putFields_cons_ok_iff.mpr ⟨s₂, hb, hrest⟩⟩
  | trans hfirst _ ih ih' =>
      exact ih' ((hfirst.map Prod.fst).nodup_iff.mp hnodup) (ih hnodup h)

/-- So any of them can be read after all others. -/
theorem putFields_last_iff {name : String} {value : Value} (hcommute : settings.Pairwise Commute)
    (hnodup : fields.names.Nodup) (h : Fields.get? name fields = some value) :
    putFields settings dialect s fields = .ok t ↔
      ∃ s', putFields settings dialect s (fields.filter fun f => f.1 ≠ name) = .ok s' ∧
        putField settings dialect s' (name, value) = .ok t := by
  have hperm := Fields.perm_of_get? hnodup h
  have hlast : putFields settings dialect s fields = .ok t ↔
      putFields settings dialect s (fields.filter (fun f => f.1 ≠ name) ++ [(name, value)]) =
        .ok t := by
    constructor
    · exact putFields_perm hcommute hperm hnodup
    · exact putFields_perm hcommute hperm.symm ((hperm.map Prod.fst).nodup_iff.mp hnodup)
  rw [hlast, putFields_append_ok_iff]
  simp only [putFields_singleton_ok_iff]

end Setting

/-! ### The settings -/

theorem RetrySettings.settings_commute : settings.Pairwise Setting.Commute := by
  simp only [settings, List.pairwise_cons, List.mem_cons, List.not_mem_nil, or_false,
    forall_eq_or_imp, forall_eq, List.Pairwise.nil, and_true, IsEmpty.forall_iff, implies_true]
  repeat' apply And.intro
  all_goals exact Setting.commute_of fun _ _ _ => rfl

theorem Settings.settings_commute : settings.Pairwise Setting.Commute := by
  simp only [settings, List.pairwise_cons, List.mem_cons, List.not_mem_nil, or_false,
    forall_eq_or_imp, forall_eq, List.Pairwise.nil, and_true, IsEmpty.forall_iff, implies_true]
  repeat' apply And.intro
  all_goals exact Setting.commute_of fun _ _ _ => rfl

/-! ### From a body and from layers -/

/-- What is read from a body is read from layers as well. -/
def Reader.Carries {α : Type} (reader : Reader α) : Prop :=
  ∀ value a, reader .json value = .ok a → reader .layered value = .ok a

namespace Reader

variable {α : Type}

theorem textAs_carries (expected : String) : (textAs expected).Carries := by
  intro value a h
  cases value with
  | text _ => exact h
  | char _ => exact h
  | _ => cases h

@[simp] theorem text_carries : text.Carries := textAs_carries _

@[simp] theorem path_carries : path.Carries := textAs_carries _

@[simp] theorem optional_carries {reader : Reader α} (hreader : reader.Carries) :
    (optional reader).Carries := by
  intro value a h
  cases value with
  | null => exact h
  | _ =>
    change (reader .json _).map some = .ok a at h
    change (reader .layered _).map some = .ok a
    cases hread : reader .json _ with
    | error _ =>
        rw [hread] at h
        cases h
    | ok x =>
        rw [hreader _ _ hread, ← h, hread]

@[simp] theorem bool_carries : bool.Carries := by
  intro value a h
  cases value with
  | bool _ => exact h
  | _ => cases h

@[simp] theorem count_carries : count.Carries := by
  intro value a h
  cases value with
  | int i =>
      simp only [count] at h ⊢
      split at h
      · next hfits => rw [if_pos hfits, h]
      · split at h
        · cases h
        · cases h
  | negativeZero => exact h
  | _ => cases h

@[simp] theorem factor_carries : factor.Carries := by
  intro value a h
  cases value with
  | int i =>
      simp only [factor] at h ⊢
      split at h
      · cases h
      · next hfits => rw [if_neg hfits, h]
  | negativeZero => exact h
  | float _ => exact h
  | _ => cases h

theorem numberOrText_carries (name : String) : (numberOrText name).Carries := by
  intro value a h
  unfold numberOrText at h ⊢
  cases hbig : oversized? value with
  | some found =>
      rw [hbig] at h
      cases h
  | none =>
      rw [hbig] at h
      exact h

/-- What is made of what a reader gives does not depend on the dialect. -/
theorem bind_carries {β : Type} {reader : Reader α} (hreader : reader.Carries)
    (f : α → Except Problem β) : Carries fun dialect value => reader dialect value >>= f := by
  intro value b h
  change reader .json value >>= f = .ok b at h
  change reader .layered value >>= f = .ok b
  cases hread : reader .json value with
  | error _ =>
      rw [hread] at h
      cases h
  | ok a =>
      rw [hread] at h
      rw [hreader value a hread]
      exact h

@[simp] theorem duration_carries : duration.Carries :=
  bind_carries (numberOrText_carries _) _

@[simp] theorem version_carries : version.Carries :=
  bind_carries (numberOrText_carries _) _

theorem modeOfField_carries {name : String} {value : Value} {found : ContainerMode}
    (h : modeOfField .json name value = .ok found) :
    modeOfField .layered name value = .ok found := by
  unfold modeOfField at h ⊢
  cases hmode : modeNamed name with
  | error _ =>
      rw [hmode] at h
      cases h
  | ok _ =>
      rw [hmode] at h
      cases value with
      | null => exact h
      | _ => cases h

@[simp] theorem mode_carries : mode.Carries := by
  intro value a h
  cases value with
  | text _ => exact h
  | record fields =>
      match fields with
      | [] => cases h
      | [(name, value)] => exact modeOfField_carries h
      | _ :: _ :: _ => cases h
  | _ => cases h

end Reader

namespace Setting

variable {σ : Type} {settings : List (Setting σ)} {s t : σ}

/-- A setting that is put alike. -/
def Carries (setting : Setting σ) : Prop :=
  ∀ s value t, setting.put .json s value = .ok t → setting.put .layered s value = .ok t

@[simp] theorem carries_of {α : Type} {key : String} {reader : Reader α} {store : σ → α → σ}
    (h : reader.Carries) : (Setting.of key reader store).Carries := by
  intro s value t hput
  obtain ⟨x, hx, hstore⟩ := of_put_ok_iff.mp hput
  exact of_put_ok_iff.mpr ⟨x, h value x hx, hstore⟩

theorem putFields_carries (h : ∀ setting ∈ settings, setting.Carries) {fields : Fields}
    (hput : putFields settings .json s fields = .ok t) :
    putFields settings .layered s fields = .ok t := by
  induction fields generalizing s with
  | nil => exact hput
  | cons field fields ih =>
      obtain ⟨s', hfield, hrest⟩ := putFields_cons_ok_iff.mp hput
      apply putFields_cons_ok_iff.mpr
      refine ⟨s', ?_, ih hrest⟩
      unfold putField at hfield ⊢
      cases hfind : settings.find? (·.key == field.1) with
      | none =>
          rw [hfind] at hfield
          exact hfield
      | some setting =>
          rw [hfind, Reader.under_ok_iff] at hfield
          apply Reader.under_ok_iff.mpr
          exact h setting (List.mem_of_find?_eq_some hfind) s field.2 s' hfield

theorem putItems_carries (h : ∀ setting ∈ settings, setting.Carries) {index : Nat}
    {items : List Value} (hput : putItems .json s index settings items = .ok t) :
    putItems .layered s index settings items = .ok t := by
  induction items generalizing s index settings with
  | nil =>
      rw [putItems] at hput ⊢
      exact hput
  | cons item items ih =>
      cases settings with
      | nil => exact hput
      | cons setting settings =>
          unfold putItems at hput ⊢
          cases hitem : Reader.under (String.ofList (Text.digits index))
              (setting.put .json s item) with
          | error _ =>
              rw [hitem] at hput
              cases hput
          | ok s' =>
              rw [hitem] at hput
              rw [Reader.under_ok_iff.mpr (h setting List.mem_cons_self s item s'
                (Reader.under_ok_iff.mp hitem))]
              exact ih (fun other hother => h other (List.mem_cons_of_mem _ hother)) hput

theorem readRecord_carries {name : String} {base : σ}
    (h : ∀ setting ∈ settings, setting.Carries) : (readRecord name settings base).Carries := by
  intro value t hread
  cases value with
  | record fields => exact putFields_carries h hread
  | list items =>
      change (putItems .json base 0 settings items).bind (fun s =>
        if Dialect.json = .json ∧ settings.length < items.length then
          Reader.fail (.tooManyItems items.length) else .ok s) = .ok t at hread
      change (putItems .layered base 0 settings items).bind (fun s =>
        if Dialect.layered = .json ∧ settings.length < items.length then
          Reader.fail (.tooManyItems items.length) else .ok s) = .ok t
      cases hitems : putItems .json base 0 settings items with
      | error _ =>
          rw [hitems] at hread
          cases hread
      | ok s =>
          rw [hitems] at hread
          rw [putItems_carries h hitems]
          simp only [Except.bind] at hread ⊢
          split at hread
          · cases hread
          · rw [if_neg (by simp)]
            exact hread
  | _ => cases hread

end Setting

@[simp] theorem RetrySettings.read_carries : RetrySettings.read.Carries := by
  apply Setting.readRecord_carries
  simp [settings]

theorem Settings.read_carries : Settings.read.Carries := by
  apply Setting.readRecord_carries
  simp [settings]

end WorkloadIdentity
