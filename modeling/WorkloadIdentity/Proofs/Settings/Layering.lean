import WorkloadIdentity.Proofs.Settings.Reading

/-!
Settings read on their own and on top of the defaults. A record that is put over the written
defaults reads as it does alone, for each setting that it leaves out starts from its default either
way. The one exception is the time after which a cycle is given up: retry settings without it have
no such limit when they are read on their own, and the default one when they are layered.
-/

namespace WorkloadIdentity

/-- The fields of a record; other values have none. -/
def Value.fields : Value → Fields
  | .record fields => fields
  | _ => []

namespace Setting

variable {σ : Type} {settings : List (Setting σ)} {dialect : Dialect} {s t : σ}
  {lower upper fields : Fields}

/-- Fields are joined with what is below them if that is a record. -/
theorem joined_of_plain {field : String × Value}
    (h : ∀ old, Fields.get? field.1 lower = some old → old.isRecord = false) :
    Value.joined lower field = field := by
  unfold Value.joined
  split
  · next old hold => rw [Value.overlay_of_lower (h old hold)]
  · rfl

/-- A record over another one is read if its own fields, joined with those below, are read after
the fields that they leave uncovered. -/
theorem putFields_overlay (hcommute : settings.Pairwise Commute) (hlower : Fields.Sorted lower)
    (hupper : upper.names.Nodup)
    (h : putFields settings dialect s
      (Value.uncovered lower upper ++ upper.map (Value.joined lower)) = .ok t) :
    putFields settings dialect s (Value.overlayFields lower upper) = .ok t :=
  putFields_perm hcommute (Value.overlayFields_perm hlower hupper).symm
    (Value.nodup_overlay (Fields.nodup_names hlower) hupper) h

end Setting

/-! ### Retry settings -/

namespace RetrySettings

variable {dialect : Dialect} {inner : Fields} {r : RetrySettings}

/-- The fields that the default is written as. -/
def defaultFields : Fields := default.written.fields

theorem written_default : default.written = .record defaultFields := rfl

theorem sorted_defaultFields : Fields.Sorted defaultFields := by
  unfold Fields.Sorted
  decide

/-- Where the record of the defaults says what a record starts from, it changes nothing. -/
theorem putField_default (dialect : Dialect) : ∀ field ∈ defaultFields,
    field.1 ≠ "max_elapsed_time" → Setting.putField settings dialect base field = .ok base := by
  cases dialect
  · decide
  · decide

theorem isRecord_default : ∀ field ∈ defaultFields, field.2.isRecord = false := by decide

theorem joined_default (inner : Fields) : inner.map (Value.joined defaultFields) = inner := by
  apply List.map_id''
  intro field
  apply Setting.joined_of_plain
  intro old hold
  exact isRecord_default _ (Fields.mem_of_get? hold)

/-- The time after which a cycle is given up unless anything else is said, as it is written. -/
def writtenElapsed : String × Value := ("max_elapsed_time", .text (Duration.ofSecs 300).written)

theorem mem_defaultFields : writtenElapsed ∈ defaultFields := Fields.mem_of_get? rfl

theorem putField_elapsed_ok_iff {s t : RetrySettings} {value : Value} :
    Setting.putField settings dialect s ("max_elapsed_time", value) = .ok t ↔
      ∃ limit, Reader.optional Reader.duration dialect value = .ok limit ∧
        { s with maxElapsed := limit } = t := by
  have hfind : settings.find? (·.key == "max_elapsed_time") =
      some (.of "max_elapsed_time" (Reader.optional Reader.duration) fun s v =>
        { s with maxElapsed := v }) := rfl
  rw [Setting.putField, hfind]
  exact Reader.under_ok_iff.trans Setting.of_put_ok_iff

theorem putField_elapsed (dialect : Dialect) (r : RetrySettings) :
    Setting.putField settings dialect r writtenElapsed =
      .ok { r with maxElapsed := default.maxElapsed } := by
  apply putField_elapsed_ok_iff.mpr
  refine ⟨default.maxElapsed, ?_, rfl⟩
  cases dialect
  · decide
  · decide

theorem putField_noElapsed (dialect : Dialect) (r : RetrySettings) :
    Setting.putField settings dialect r ("max_elapsed_time", .null) =
      .ok { r with maxElapsed := none } :=
  putField_elapsed_ok_iff.mpr ⟨none, rfl, rfl⟩

/-- A record that does not name the elapsed time leaves it without a limit. -/
theorem maxElapsed_of_read (hinner : inner.names.Nodup)
    (hout : Fields.get? "max_elapsed_time" inner = none)
    (h : read dialect (.record inner) = .ok r) : r.maxElapsed = none := by
  have hread : Setting.putFields settings dialect base inner = .ok r := h
  -- A null put at the end takes the limit away, and at the front it changes nothing.
  have hlast : Setting.putFields settings dialect base (inner ++ [("max_elapsed_time", .null)]) =
      .ok { r with maxElapsed := none } := by
    apply Setting.putFields_append_ok_iff.mpr
    exact ⟨r, hread, Setting.putFields_singleton_ok_iff.mpr (putField_noElapsed dialect r)⟩
  have hfirst := Setting.putFields_perm settings_commute (List.perm_append_singleton _ _)
    (Fields.nodup_concat hinner hout) hlast
  obtain ⟨s, hs, hrest⟩ := Setting.putFields_cons_ok_iff.mp hfirst
  rw [putField_noElapsed] at hs
  obtain rfl := Except.ok.inj hs
  have hsame : (Except.ok r : Except Problem RetrySettings) = .ok { r with maxElapsed := none } :=
    hread.symm.trans hrest
  exact congrArg maxElapsed (Except.ok.inj hsame)

/-- Retry settings over the defaults: those that name the elapsed time are read as they are alone,
and the others get the default one. -/
theorem read_overlay (hinner : inner.names.Nodup) (h : read dialect (.record inner) = .ok r) :
    read dialect (default.written.overlay (.record inner)) =
      .ok (if Fields.get? "max_elapsed_time" inner = none then
        { r with maxElapsed := default.maxElapsed } else r) := by
  have hread : Setting.putFields settings dialect base inner = .ok r := h
  have hlower := Fields.nodup_names sorted_defaultFields
  have hnodup := Value.nodup_overlay hlower hinner
  rw [written_default, Value.overlay]
  apply Setting.putFields_overlay settings_commute sorted_defaultFields hinner
  rw [joined_default] at hnodup ⊢
  by_cases hout : Fields.get? "max_elapsed_time" inner = none
  · rw [if_pos hout]
    have hmem : writtenElapsed ∈ Value.uncovered defaultFields inner :=
      Value.mem_uncovered.mpr ⟨mem_defaultFields, Fields.get?_eq_none_iff.mp hout⟩
    have hlast := Fields.get?_of_mem hnodup (List.mem_append_left inner hmem)
    apply (Setting.putFields_last_iff settings_commute hnodup hlast).mpr
    refine ⟨r, ?_, putField_elapsed dialect r⟩
    rw [List.filter_append, Fields.filter_ne_of_not_mem (Fields.get?_eq_none_iff.mp hout)]
    apply Setting.putFields_append_ok_iff.mpr
    refine ⟨base, Setting.putFields_idle ?_, hread⟩
    intro field hfield
    obtain ⟨hfield, hname⟩ := List.mem_filter.mp hfield
    exact putField_default dialect field (Value.mem_uncovered.mp hfield).1 (by simpa using hname)
  · rw [if_neg hout]
    apply Setting.putFields_append_ok_iff.mpr
    refine ⟨base, Setting.putFields_idle ?_, hread⟩
    intro field hfield
    obtain ⟨hdefault, huncovered⟩ := Value.mem_uncovered.mp hfield
    apply putField_default dialect field hdefault
    rintro hname
    rw [hname] at huncovered
    exact hout (Fields.get?_eq_none_iff.mpr huncovered)

end RetrySettings

namespace Settings

def defaultFields : Fields := default.written.fields

theorem written_default : default.written = .record defaultFields := rfl

theorem sorted_defaultFields : Fields.Sorted defaultFields := by
  unfold Fields.Sorted
  decide

theorem putField_default (dialect : Dialect) : ∀ field ∈ defaultFields,
    Setting.putField settings dialect default field = .ok default := by
  cases dialect
  · decide
  · decide

theorem isRecord_default :
    ∀ field ∈ defaultFields, field.1 ≠ "retry" → field.2.isRecord = false := by
  decide

variable {dialect : Dialect} {fields : Fields} {s t : Settings}

theorem putField_retry_ok_iff {value : Value} :
    Setting.putField settings dialect s ("retry", value) = .ok t ↔
      ∃ r, RetrySettings.read dialect value = .ok r ∧ { s with retry := r } = t := by
  have hfind : settings.find? (·.key == "retry") =
      some (.of "retry" RetrySettings.read fun s v => { s with retry := v }) := rfl
  rw [Setting.putField, hfind]
  exact Reader.under_ok_iff.trans Setting.of_put_ok_iff

theorem joined_default {field : String × Value} (h : field.1 ≠ "retry") :
    Value.joined defaultFields field = field := by
  apply Setting.joined_of_plain
  intro old hold
  exact isRecord_default _ (Fields.mem_of_get? hold) h

theorem map_joined_default (h : "retry" ∉ fields.names) :
    fields.map (Value.joined defaultFields) = fields := by
  have hid : fields.map (Value.joined defaultFields) = fields.map id := by
    apply List.map_congr_left
    intro field hfield
    apply joined_default
    rintro hname
    exact h (hname ▸ List.mem_map_of_mem hfield)
  rw [hid, List.map_id]

theorem filter_map_joined_default (fields : Fields) :
    (fields.map (Value.joined defaultFields)).filter (fun f => f.1 ≠ "retry") =
      fields.filter fun f => f.1 ≠ "retry" := by
  have hnames : (fun f => decide (f.1 ≠ "retry")) ∘ Value.joined defaultFields =
      fun f => decide (f.1 ≠ "retry") := by
    funext f
    simp only [Function.comp_apply, Value.joined_fst]
  rw [List.filter_map, hnames]
  apply map_joined_default
  intro hmem
  obtain ⟨f, hf, hname⟩ := List.mem_map.mp hmem
  have hne := (List.mem_filter.mp hf).2
  simp [hname] at hne

/-- What stands below the fields of a record changes nothing: it is read as what is there
already. -/
theorem read_overlay (hfields : fields.names.Nodup)
    (h : Setting.putFields settings dialect default (fields.map (Value.joined defaultFields)) =
      .ok t) :
    read dialect (default.written.overlay (.record fields)) = .ok t := by
  rw [written_default, Value.overlay]
  apply Setting.putFields_overlay settings_commute sorted_defaultFields hfields
  apply Setting.putFields_append_ok_iff.mpr
  refine ⟨default, Setting.putFields_idle ?_, h⟩
  intro field hfield
  exact putField_default dialect field (Value.mem_uncovered.mp hfield).1

theorem read_overlay_of_none (hfields : fields.names.Nodup)
    (hretry : Fields.get? "retry" fields = none) (h : read dialect (.record fields) = .ok s) :
    read dialect (default.written.overlay (.record fields)) = .ok s := by
  apply read_overlay hfields
  rw [map_joined_default (Fields.get?_eq_none_iff.mp hretry)]
  exact h

/-- With retry settings it depends on how these are read over the defaults. -/
theorem read_overlay_of_some {value : Value} (hfields : fields.names.Nodup)
    (hretry : Fields.get? "retry" fields = some value) (h : read dialect (.record fields) = .ok s) :
    RetrySettings.read dialect value = .ok s.retry ∧
      ∀ r, RetrySettings.read dialect (RetrySettings.default.written.overlay value) = .ok r →
        read dialect (default.written.overlay (.record fields)) = .ok { s with retry := r } := by
  have hread : Setting.putFields settings dialect default fields = .ok s := h
  obtain ⟨s₀, hothers, hput⟩ :=
    (Setting.putFields_last_iff settings_commute hfields hretry).mp hread
  obtain ⟨r₀, hr₀, rfl⟩ := putField_retry_ok_iff.mp hput
  refine ⟨hr₀, ?_⟩
  intro r hr
  apply read_overlay hfields
  have hnodup : (Fields.names (fields.map (Value.joined defaultFields))).Nodup := by
    rw [Value.names_map_joined]
    exact hfields
  have hmem : ("retry", RetrySettings.default.written.overlay value) ∈
      fields.map (Value.joined defaultFields) :=
    List.mem_map.mpr ⟨("retry", value), Fields.mem_of_get? hretry, rfl⟩
  have hlast := Fields.get?_of_mem hnodup hmem
  apply (Setting.putFields_last_iff settings_commute hnodup hlast).mpr
  rw [filter_map_joined_default]
  exact ⟨s₀, hothers, putField_retry_ok_iff.mpr ⟨r, hr, rfl⟩⟩

/-- The settings have a record for the retry settings that leaves the elapsed time out. -/
def LeavesElapsedOut (fields : Fields) : Prop :=
  ∃ inner, Fields.get? "retry" fields = some (.record inner) ∧
    Fields.get? "max_elapsed_time" inner = none

/-- Everything else is read as it is alone. -/
theorem read_overlay_of_not_leavesElapsedOut (hfields : fields.names.Nodup)
    (hinner : ∀ inner : Fields, Fields.get? "retry" fields = some (.record inner) →
      inner.names.Nodup)
    (h : read dialect (.record fields) = .ok s) (hleaves : ¬LeavesElapsedOut fields) :
    read dialect (default.written.overlay (.record fields)) = .ok s := by
  cases hretry : Fields.get? "retry" fields with
  | none => exact read_overlay_of_none hfields hretry h
  | some value =>
      obtain ⟨hread, hover⟩ := read_overlay_of_some hfields hretry h
      apply hover s.retry
      cases hrecord : value.isRecord with
      | false =>
          rw [Value.overlay_of_upper hrecord]
          exact hread
      | true =>
          cases value with
          | record inner =>
              have hin : Fields.get? "max_elapsed_time" inner ≠ none :=
                fun hout => hleaves ⟨inner, hretry, hout⟩
              rw [RetrySettings.read_overlay (hinner inner hretry) hread, if_neg hin]
          | _ => cases hrecord

/-- Retry settings without an elapsed time get the default one. -/
theorem read_overlay_of_leavesElapsedOut (hfields : fields.names.Nodup)
    (hinner : ∀ inner : Fields, Fields.get? "retry" fields = some (.record inner) →
      inner.names.Nodup)
    (h : read dialect (.record fields) = .ok s) (hleaves : LeavesElapsedOut fields) :
    s.retry.maxElapsed = none ∧ read dialect (default.written.overlay (.record fields)) =
      .ok { s with retry := { s.retry with maxElapsed := RetrySettings.default.maxElapsed } } := by
  obtain ⟨inner, hretry, hout⟩ := hleaves
  obtain ⟨hread, hover⟩ := read_overlay_of_some hfields hretry h
  refine ⟨RetrySettings.maxElapsed_of_read (hinner inner hretry) hout hread, ?_⟩
  apply hover
  rw [RetrySettings.read_overlay (hinner inner hretry) hread, if_pos hout]

/-- An object that configures the program does so in the same way whether it is read on its own or
put over the written defaults, in either dialect, exactly if it has no record of retry settings
without an elapsed time. Such a record alone leaves a cycle without a limit, and over the defaults
it gets theirs; everything else is the same. -/
theorem layered_eq_direct_iff {json : Json} (hjson : Value.ofJson? json = some (.record fields))
    (h : read .json (.record fields) = .ok s) (dialect : Dialect) :
    (read dialect (default.written.overlay (.record fields)) = .ok s ↔ ¬LeavesElapsedOut fields) ∧
      (LeavesElapsedOut fields → s.retry.maxElapsed = none ∧
        read dialect (default.written.overlay (.record fields)) =
          .ok { s with
            retry := { s.retry with maxElapsed := RetrySettings.default.maxElapsed } }) := by
  have hfields := Fields.nodup_names (Value.sorted_of_ofJson? hjson)
  have hinner (inner : Fields) (hretry : Fields.get? "retry" fields = some (.record inner)) :
      inner.names.Nodup :=
    Fields.nodup_names (Value.sorted_of_get?_ofJson? hjson hretry)
  have hdirect : read dialect (.record fields) = .ok s := by
    cases dialect with
    | json => exact h
    | layered => exact read_carries _ _ h
  refine ⟨⟨?_, read_overlay_of_not_leavesElapsedOut hfields hinner hdirect⟩,
    read_overlay_of_leavesElapsedOut hfields hinner hdirect⟩
  intro hsame hleaves
  obtain ⟨hnone, hlayered⟩ := read_overlay_of_leavesElapsedOut hfields hinner hdirect hleaves
  rw [hsame] at hlayered
  have helapsed : s.retry.maxElapsed = RetrySettings.default.maxElapsed :=
    congrArg (fun s : Settings => s.retry.maxElapsed) (Except.ok.inj hlayered)
  rw [hnone] at helapsed
  cases helapsed

/-- A body that has retry settings and says nothing in them. -/
def emptyRetry : Json := .object [(Utf8.ofString "retry", .object [])]

private theorem ofJson?_emptyRetry :
    Value.ofJson? emptyRetry = some (.record [("retry", .record [])]) := by
  have hname : Json.readText? (Utf8.ofString "retry") = some "retry" := by decide +kernel
  simp only [emptyRetry, Value.ofJson?, Value.ofJsonMembers?, hname]
  rfl

theorem layered_eq_direct_iff_empty :
    Value.ofJson? emptyRetry = some (.record [("retry", .record [])]) ∧
    read .json (.record [("retry", .record [])]) =
      .ok { default with retry := RetrySettings.base } ∧
    LeavesElapsedOut [("retry", .record [])] ∧
    read .layered (default.written.overlay (.record [("retry", .record [])])) ≠
      .ok { default with retry := RetrySettings.base } ∧
    RetrySettings.base.maxElapsed = none ∧
    read .layered (default.written.overlay (.record [("retry", .record [])])) = .ok default := by
  have h : read .json (.record [("retry", .record [])]) =
      .ok { default with retry := RetrySettings.base } := rfl
  have hleaves : LeavesElapsedOut [("retry", .record [])] := ⟨[], rfl, rfl⟩
  obtain ⟨hsame, hdiffer⟩ := layered_eq_direct_iff ofJson?_emptyRetry h .layered
  obtain ⟨hnone, hlayered⟩ := hdiffer hleaves
  exact ⟨ofJson?_emptyRetry, h, hleaves, fun heq => hsame.mp heq hleaves, hnone, hlayered⟩

/-- Alone they put no limit on a cycle, over the defaults the default one. -/
theorem empty_retry_is_read_differently :
    Value.ofJson? emptyRetry = some (.record [("retry", .record [])]) ∧
    read .json (.record [("retry", .record [])]) =
      .ok { default with retry := { RetrySettings.default with maxElapsed := none } } ∧
    read .json (default.written.overlay (.record [("retry", .record [])])) = .ok default ∧
    RetrySettings.default.maxElapsed = some (.ofSecs 300) := by
  refine ⟨ofJson?_emptyRetry, rfl, ?_, rfl⟩
  decide +kernel

end Settings

end WorkloadIdentity
