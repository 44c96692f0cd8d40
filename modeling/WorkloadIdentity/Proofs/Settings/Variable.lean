import WorkloadIdentity.Proofs.Settings.Layering
import WorkloadIdentity.Proofs.Settings.Leaves
import WorkloadIdentity.Proofs.Settings.Spelling

/-!
A setting that is a text, from a variable. What stands in the variable is what the setting holds,
without the blanks around it. The exceptions are those of the language that variables are spelled
in: a text in quotes loses them, and a list or a record is no text.
-/

namespace WorkloadIdentity

variable {vars : List (String × String)} {key raw : String}

/-! ### One variable -/

/-- Variables that are for no setting do not count. -/
theorem Environment.read_filter (vars : List (String × String)) :
    read (vars.filter fun var => (path? var.1).isSome) = read vars := by
  have hput : (fun found var => if (path? var.1).isSome = true then put found var else found) =
      put := by
    funext found var
    unfold put
    cases path? var.1 with
    | none => rfl
    | some _ => rfl
  rw [read_eq, read_eq, List.foldl_filter, hput]

/-- One of the variables is for the setting with this key, and none of the others is for any. -/
def Environment.Single (vars : List (String × String)) (key raw : String) : Prop :=
  ∃ name, path? name = some [key] ∧
    vars.filter (fun var => (path? var.1).isSome) = [(name, raw)]

theorem Environment.read_of_single (h : Single vars key raw) :
    read vars = .record [(key, parse raw)] := by
  obtain ⟨name, hname, hvars⟩ := h
  rw [← read_filter, hvars, read_eq, List.foldl_cons, List.foldl_nil, put, hname]
  simp [nest, Value.overlay, Value.overlayFields, Fields.get?, Fields.insert]

/-! ### One field -/

namespace Setting

variable {σ : Type} {settings : List (Setting σ)} {dialect : Dialect} {s : σ}
  {field : String × Value} {fields : Fields} {problem : Problem}

theorem putFields_cons (settings : List (Setting σ)) (dialect : Dialect) (s : σ)
    (field : String × Value) (rest : Fields) :
    putFields settings dialect s (field :: rest) =
      (putField settings dialect s field).bind fun s => putFields settings dialect s rest := by
  rw [putFields, putField]
  cases settings.find? (·.key == field.1) with
  | none => rfl
  | some setting => rfl

/-- Among fields that change nothing a problem is found wherever it stands. -/
theorem putFields_error_of_idle (hmem : field ∈ fields)
    (hidle : ∀ other ∈ fields, other = field ∨ putField settings dialect s other = .ok s)
    (h : putField settings dialect s field = .error problem) :
    putFields settings dialect s fields = .error problem := by
  induction fields with
  | nil => cases hmem
  | cons other fields ih =>
      rw [putFields_cons]
      rcases hidle other List.mem_cons_self with rfl | hother
      · rw [h]
        rfl
      · rw [hother]
        rcases List.mem_cons.mp hmem with rfl | hrest
        · rw [h] at hother
          cases hother
        · exact ih hrest fun field hfield => hidle field (List.mem_cons_of_mem _ hfield)

end Setting

namespace Settings

/-- A setting that is a text, and how a text is put there. -/
structure TextSetting where
  key : String
  put : Settings → String → Settings

def textSettings : List TextSetting := [
  ⟨"authn_url", fun s v => { s with authnUrl := v }⟩,
  ⟨"account", fun s v => { s with account := v }⟩,
  ⟨"authn_login", fun s v => { s with login := some v }⟩,
  ⟨"authn_type", fun s v => { s with strategy := some v }⟩,
  ⟨"ssl_certificate", fun s v => { s with authorityText := some v }⟩,
  ⟨"ssl_certificate_path", fun s v => { s with authorityPath := some v }⟩,
  ⟨"pod_name", fun s v => { s with podName := some v }⟩,
  ⟨"pod_namespace", fun s v => { s with podNamespace := some v }⟩,
  ⟨"client_cert_path", fun s v => { s with certificatePath := v }⟩,
  ⟨"jwt_token_path", fun s v => { s with bearerPath := v }⟩,
  ⟨"gcp_metadata_url", fun s v => { s with metadataUrl := v }⟩,
  ⟨"gcp_audience_prefix", fun s v => { s with audienceRoot := v }⟩,
  ⟨"access_token_path", fun s v => { s with tokenPath := some v }⟩]

variable {field : TextSetting} {value : Value} {fs : FileSystem}

/-- The variable for a text setting is named by its key in capitals. -/
theorem path?_variable : ∀ field ∈ textSettings, Environment.path?
    (String.ofList (Environment.beginning ++ field.key.toList.map Char.toUpper)) =
      some [field.key] := by decide

theorem key_ne_retry : ∀ field ∈ textSettings, field.key ≠ "retry" := by decide

theorem putField_text : ∀ field ∈ textSettings, ∀ value text, Environment.IsText value text →
    Setting.putField settings .layered default (field.key, value) =
      .ok (field.put default text) := by
  simp only [textSettings, List.mem_cons, List.not_mem_nil, or_false, forall_eq_or_imp, forall_eq]
  repeat' apply And.intro
  all_goals
    rintro _ _ (rfl | ⟨c, rfl, rfl⟩)
    all_goals rfl

/-- A text setting takes no value that is there and is no text. -/
theorem putField_other : ∀ field ∈ textSettings, ∀ value, Environment.IsOther value →
    ∃ mismatch, Setting.putField settings .layered default (field.key, value) =
      .error ⟨[field.key], mismatch⟩ := by
  simp only [textSettings, List.mem_cons, List.not_mem_nil, or_false, forall_eq_or_imp, forall_eq]
  repeat' apply And.intro
  all_goals
    rintro value (⟨b, rfl⟩ | (⟨i, rfl⟩ | rfl | ⟨f, rfl⟩) | ⟨items, rfl⟩ | ⟨fields, rfl⟩)
    all_goals exact ⟨_, rfl⟩

/-! ### Loading -/

/-- Nothing but the variable lies over the defaults. -/
theorem layers_of_single (hvars : Environment.Single vars key raw) :
    (default.written.overlay (.record [])).overlay (Environment.read vars) =
      default.written.overlay (.record [(key, Environment.parse raw)]) := by
  rw [Environment.read_of_single hvars]
  rfl

/-- A field that can be read is read over the defaults. -/
theorem load_of_putField {s : Settings} (hfield : field ∈ textSettings)
    (hvars : Environment.Single vars field.key raw)
    (h : Setting.putField settings .layered default (field.key, Environment.parse raw) = .ok s) :
    load fs vars none = .ok s := by
  have hfile : fileLayer fs none = .ok (.record []) := rfl
  have hnodup : (Fields.names [(field.key, Environment.parse raw)]).Nodup := List.nodup_singleton _
  apply (load_ok_iff hfile).mpr
  rw [layers_of_single hvars]
  apply read_overlay_of_none hnodup
  · exact Fields.get?_cons_ne (key_ne_retry field hfield)
  · exact Setting.putFields_singleton_ok_iff.mpr h

/-- A field that cannot be read is a problem of its own over them. -/
theorem load_of_putField_error {problem : Problem} (hfield : field ∈ textSettings)
    (hvars : Environment.Single vars field.key raw)
    (h : Setting.putField settings .layered default (field.key, Environment.parse raw) =
      .error problem) :
    load fs vars none = .error (.settings (.described
      (Dialect.layered.message problem.mismatch ++
        shownSource (Environment.read vars) none problem.path))) := by
  have hread : read .layered (default.written.overlay
      (.record [(field.key, Environment.parse raw)])) = .error problem := by
    have hnodup : (Fields.names [(field.key, Environment.parse raw)]).Nodup :=
      List.nodup_singleton _
    have hperm := Value.overlayFields_perm sorted_defaultFields hnodup
    rw [List.map_singleton, joined_default (key_ne_retry field hfield)] at hperm
    rw [written_default, Value.overlay]
    refine Setting.putFields_error_of_idle (hperm.mem_iff.mpr (by simp)) ?_ h
    intro other hother
    rcases List.mem_append.mp (hperm.mem_iff.mp hother) with hbelow | habove
    · exact Or.inr (putField_default .layered other (Value.mem_uncovered.mp hbelow).1)
    · exact Or.inl (List.mem_singleton.mp habove)
  have hlayers : read .layered ((default.written.overlay (.record [])).overlay
      (Environment.read vars)) = .error problem := by
    rw [layers_of_single hvars, hread]
  rw [load_eq, fileLayer, Except.bind, hlayers, Except.mapError]

theorem shownSource_of_single (hvars : Environment.Single vars key raw) :
    shownSource (Environment.read vars) none [key] =
      " for key " ++ Text.quoted (String.ofList (key.toList.map Char.toUpper)) ++
        " in \x60AUTHN_\x60 environment variable(s)" := by
  rw [Environment.read_of_single hvars]
  simp [shownSource, Value.at?, Fields.get?]

/-- A variable that spells no text is refused with the name of the setting. -/
theorem load_refuses_other (hfield : field ∈ textSettings)
    (hvars : Environment.Single vars field.key raw) (fs : FileSystem)
    (h : Environment.IsOther (Environment.parse raw)) :
    ∃ words, load fs vars none = .error (.settings (.described (words ++ (" for key " ++
      Text.quoted (String.ofList (field.key.toList.map Char.toUpper)) ++
        " in \x60AUTHN_\x60 environment variable(s)")))) := by
  obtain ⟨mismatch, hproblem⟩ := putField_other field hfield _ h
  refine ⟨Dialect.layered.message mismatch, ?_⟩
  rw [load_of_putField_error hfield hvars hproblem, shownSource_of_single hvars]

/-- So `true`, `false` and the numbers are refused. -/
theorem load_refuses_flag_or_number (hfield : field ∈ textSettings)
    (hvars : Environment.Single vars field.key raw) (fs : FileSystem)
    (h : Environment.IsFlag (Text.trim raw.toList) ∨ Environment.IsNumber (Text.trim raw.toList)) :
    ∃ words, load fs vars none = .error (.settings (.described (words ++ (" for key " ++
      Text.quoted (String.ofList (field.key.toList.map Char.toUpper)) ++
        " in \x60AUTHN_\x60 environment variable(s)")))) := by
  apply load_refuses_other hfield hvars fs
  rcases h with hflag | hnumber
  · exact Or.inl (Environment.parse_of_isFlag hflag)
  · exact Or.inr (Or.inl (Environment.parse_of_isNumber hnumber))

/-- A text setting from the only variable that is for a setting. What the variable holds, without
the blanks around it, becomes the setting, unless the language of variables has another meaning
for it: a text in quotes becomes the setting without them, and a list or a record is refused with
the name of the setting. Of `true`, `false` and the numbers nothing is said here; they are refused
as well, by `load_refuses_flag_or_number`. -/
theorem load_takes_text (hfield : field ∈ textSettings)
    (hvars : Environment.Single vars field.key raw) (fs : FileSystem) :
    (∀ text, Environment.InQuotes (Text.trim raw.toList) text →
      load fs vars none = .ok (field.put default (String.ofList text))) ∧
    (Environment.IsCollection (Text.trim raw.toList) → ∃ words, load fs vars none =
      .error (.settings (.described (words ++ (" for key " ++
        Text.quoted (String.ofList (field.key.toList.map Char.toUpper)) ++
          " in \x60AUTHN_\x60 environment variable(s)"))))) ∧
    (¬Environment.IsFlag (Text.trim raw.toList) → ¬Environment.IsNumber (Text.trim raw.toList) →
      (∀ text, ¬Environment.InQuotes (Text.trim raw.toList) text) →
      ¬Environment.IsCollection (Text.trim raw.toList) →
      load fs vars none = .ok (field.put default (Text.trimmed raw))) := by
  refine ⟨?_, ?_, ?_⟩
  · intro text hquotes
    apply load_of_putField hfield hvars
    exact putField_text field hfield _ _ (Environment.parse_of_inQuotes hquotes)
  · intro hcollection
    apply load_refuses_other hfield hvars fs
    exact Or.inr (Or.inr (Environment.parse_of_isCollection hcollection))
  · intro hflag hnumber hquotes hcollection
    apply load_of_putField hfield hvars
    exact putField_text field hfield _ _
      (Or.inl (Environment.parse_eq_text hflag hnumber hquotes hcollection))

def accountSetting : TextSetting := ⟨"account", fun s v => { s with account := v }⟩

theorem accountSetting_mem : accountSetting ∈ textSettings := by
  simp [textSettings, accountSetting]

theorem single_account (raw : String) : Environment.Single
    [("PATH", "/bin"), ("AUTHN_ACCOUNT", raw)] accountSetting.key raw := by
  have hother : Environment.path? "PATH" = none := by decide
  have hname := path?_variable accountSetting accountSetting_mem
  refine ⟨"AUTHN_ACCOUNT", hname, ?_⟩
  have haccount : (Environment.path? "AUTHN_ACCOUNT").isSome = true := by
    rw [show Environment.path? "AUTHN_ACCOUNT" = some [accountSetting.key] from hname]
    rfl
  simp [hother, haccount]

/-- An account between blanks, one in quotes, and a list of one. -/
theorem load_takes_text_account :
    load .empty [("PATH", "/bin"), ("AUTHN_ACCOUNT", " me, you\t")] none =
      .ok { default with account := "me, you" } ∧
    load .empty [("PATH", "/bin"), ("AUTHN_ACCOUNT", "\"\\u00e9\"")] none =
      .ok { default with account := "é" } ∧
    ∃ words, load .empty [("PATH", "/bin"), ("AUTHN_ACCOUNT", "[me]")] none =
      .error (.settings (.described (words ++
        " for key \"ACCOUNT\" in \x60AUTHN_\x60 environment variable(s)"))) := by
  have hload (raw : String) := load_takes_text accountSetting_mem (single_account raw) .empty
  refine ⟨(hload _).2.2 ?_ ?_ ?_ ?_, (hload _).1 ['é'] ?_, ?_⟩
  · rintro (h | h)
    all_goals
      revert h
      decide
  · rintro (⟨n, h⟩ | ⟨i, h⟩ | ⟨h, -⟩)
    · cases h
    · cases h
    · revert h
      decide
  · intro text h
    have htrim : Text.trim " me, you\t".toList = "me, you".toList := by decide
    rw [htrim] at h
    cases h
  · rintro ⟨found, h, -⟩
    cases h
  · have htrim : Text.trim "\"\\u00e9\"".toList = "\"\\u00e9\"".toList := by decide
    have hquoted : Environment.Quoted ('\\' :: 'u' :: (['0', '0', 'e', '9'] ++ ['"'])) ['é'] :=
      .short rfl rfl .closed
    rw [htrim]
    exact .double hquoted
  · obtain ⟨words, hwords⟩ := (hload "[me]").2.1 ⟨_, rfl, Or.inl ⟨_, rfl⟩⟩
    exact ⟨words, hwords⟩

/-- An account in quotes is loaded without them, so not every text is taken as it stands. -/
theorem quoted_account_loses_quotes :
    load .empty [("PATH", "/bin"), ("AUTHN_ACCOUNT", "\"quoted\"")] none =
      .ok { default with account := "quoted" } ∧
    ¬∀ field ∈ textSettings, ∀ (vars : List (String × String)) (raw : String) (fs : FileSystem),
      Environment.Single vars field.key raw →
        load fs vars none = .ok (field.put default (Text.trimmed raw)) := by
  have hparse : Environment.parse "\"quoted\"" = .text "quoted" := rfl
  have hload : load .empty [("PATH", "/bin"), ("AUTHN_ACCOUNT", "\"quoted\"")] none =
      .ok { default with account := "quoted" } := by
    apply load_of_putField accountSetting_mem (single_account _)
    exact putField_text _ accountSetting_mem _ _ (Or.inl hparse)
  refine ⟨hload, ?_⟩
  intro hkept
  have hsame := (hkept _ accountSetting_mem _ _ .empty (single_account _)).symm.trans hload
  have haccount := congrArg Settings.account (Except.ok.inj hsame)
  revert haccount
  decide

end Settings

end WorkloadIdentity
