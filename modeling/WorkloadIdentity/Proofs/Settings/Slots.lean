import Mathlib.Data.List.Nodup
import WorkloadIdentity.Proofs.Settings.Reading

/-!
The slots of a record. Each setting is kept in a slot of its own, and the slots together are the
whole record. So a record is read exactly if each field can be read for its slot, and what comes of
it has in each slot what its field says, or what was there before where the field is missing.
-/

namespace WorkloadIdentity

/-- A slot of a record, with the reader of its field and the form in which it is written. -/
structure Slot (σ : Type) where
  Held : Type
  key : String
  reader : Reader Held
  write : Held → Value
  get : σ → Held
  set : σ → Held → σ

namespace Slot

variable {σ : Type} {slots : List (Slot σ)} {dialect : Dialect} {s t : σ} {fields : Fields}

def setting (p : Slot σ) : Setting σ := .of p.key p.reader p.set

/-- Slots with names of their own that do not touch each other, and that are all there is. -/
structure Lawful (slots : List (Slot σ)) : Prop where
  nodup : (slots.map key).Nodup
  get_set : ∀ p ∈ slots, ∀ s x, p.get (p.set s x) = x
  apart : slots.Pairwise fun p q =>
    (∀ s y, p.get (q.set s y) = p.get s) ∧ ∀ s x, q.get (p.set s x) = q.get s
  ext : ∀ s t, (∀ p ∈ slots, p.get s = p.get t) → s = t

theorem Lawful.eq_of_key (h : Lawful slots) {p q : Slot σ} (hp : p ∈ slots) (hq : q ∈ slots)
    (hkey : p.key = q.key) : p = q :=
  List.inj_on_of_nodup_map h.nodup hp hq hkey

theorem Lawful.forall_iff (h : Lawful slots) {q : Slot σ} (hq : q ∈ slots)
    {P : Slot σ → Prop} :
    (∀ p ∈ slots, P p) ↔ P q ∧ ∀ p ∈ slots, p.key ≠ q.key → P p := by
  constructor
  · intro hall
    exact ⟨hall q hq, fun p hp _ => hall p hp⟩
  · rintro ⟨hself, hother⟩ p hp
    by_cases hkey : p.key = q.key
    · rw [h.eq_of_key hp hq hkey]
      exact hself
    · exact hother p hp hkey

theorem Lawful.get_set_ne (h : Lawful slots) {p q : Slot σ} (hp : p ∈ slots) (hq : q ∈ slots)
    (hkey : p.key ≠ q.key) (s : σ) (y : q.Held) : p.get (q.set s y) = p.get s := by
  have hsymm : Std.Symm fun p q : Slot σ =>
      (∀ s y, p.get (q.set s y) = p.get s) ∧ ∀ s x, q.get (p.set s x) = q.get s :=
    ⟨fun _ _ h => h.symm⟩
  have hne : p ≠ q := by
    rintro rfl
    exact hkey rfl
  exact (h.apart.forall hp hq hne).1 s y

/-! ### Finding the slot of a field -/

theorem find?_setting (h : Lawful slots) {p : Slot σ} (hp : p ∈ slots) :
    (slots.map setting).find? (·.key == p.key) = some p.setting := by
  have hfound : (slots.find? fun q => q.key == p.key) = some p := by
    cases hfind : slots.find? fun q => q.key == p.key with
    | none =>
        have hnot := List.find?_eq_none.mp hfind p hp
        simp at hnot
    | some q =>
        have hkey : q.key = p.key := by simpa using List.find?_some hfind
        rw [h.eq_of_key (List.mem_of_find?_eq_some hfind) hp hkey]
  rw [List.find?_map]
  exact congrArg (Option.map setting) hfound

/-- A field is one of a slot, or of none. -/
theorem exists_or_forall_ne (slots : List (Slot σ)) (name : String) :
    (∃ p ∈ slots, p.key = name) ∨ ∀ p ∈ slots, p.key ≠ name := by
  by_cases hmem : name ∈ slots.map key
  · exact Or.inl (List.mem_map.mp hmem)
  · exact Or.inr fun p hp hname => hmem (hname ▸ List.mem_map_of_mem hp)

theorem putField_of_forall_ne {field : String × Value} (h : ∀ p ∈ slots, p.key ≠ field.1) :
    Setting.putField (slots.map setting) dialect s field = .ok s := by
  have hnone : (slots.map setting).find? (·.key == field.1) = none := by
    rw [List.find?_eq_none]
    intro a ha
    obtain ⟨p, hp, rfl⟩ := List.mem_map.mp ha
    simpa [setting, Setting.of] using h p hp
  rw [Setting.putField, hnone]

theorem putField_ok_iff (h : Lawful slots) {p : Slot σ} (hp : p ∈ slots) {value : Value} :
    Setting.putField (slots.map setting) dialect s (p.key, value) = .ok t ↔
      ∃ x, p.reader dialect value = .ok x ∧ p.set s x = t := by
  rw [Setting.putField, find?_setting h hp]
  exact Reader.under_ok_iff.trans Setting.of_put_ok_iff

/-! ### Reading the fields of a record -/

/-- What a slot has after the reading: what its field says, or what was there before. -/
def Takes (p : Slot σ) (dialect : Dialect) (value? : Option Value) (s t : σ) : Prop :=
  match value? with
  | some value => p.reader dialect value = .ok (p.get t)
  | none => p.get t = p.get s

theorem takes_of_get_eq {p : Slot σ} {value? : Option Value} {s s' : σ} (h : p.get s' = p.get s) :
    p.Takes dialect value? s' t ↔ p.Takes dialect value? s t := by
  cases value? with
  | none => rw [Takes, Takes, h]
  | some _ => rfl

/-- Each field is read for its slot, and no slot changes but by its field. -/
theorem putFields_ok_iff (h : Lawful slots) (hnodup : fields.names.Nodup) :
    Setting.putFields (slots.map setting) dialect s fields = .ok t ↔
      ∀ p ∈ slots, p.Takes dialect (Fields.get? p.key fields) s t := by
  induction fields generalizing s with
  | nil =>
      constructor
      · rintro ⟨⟩ p _
        rfl
      · intro hkept
        exact congrArg Except.ok (h.ext s t fun p hp => (hkept p hp).symm)
  | cons field fields ih =>
      obtain ⟨name, value⟩ := field
      obtain ⟨hname, hrest⟩ := List.nodup_cons.mp hnodup
      rw [Setting.putFields_cons_ok_iff]
      rcases exists_or_forall_ne slots name with ⟨q, hq, rfl⟩ | hnone
      · -- The field of a slot: it decides on that one, and the others wait for their own.
        have hself : Fields.get? q.key fields = none := Fields.get?_eq_none_iff.mpr hname
        have hother (p : Slot σ) (hp : p ∈ slots) (hne : p.key ≠ q.key) (x : q.Held) :
            p.Takes dialect (Fields.get? p.key fields) (q.set s x) t ↔
              p.Takes dialect (Fields.get? p.key ((q.key, value) :: fields)) s t := by
          rw [Fields.get?_cons_ne (Ne.symm hne), takes_of_get_eq (h.get_set_ne hp hq hne s x)]
        constructor
        · rintro ⟨_, hput, hlater⟩ p hp
          obtain ⟨x, hx, rfl⟩ := (putField_ok_iff h hq).mp hput
          have htakes := (ih hrest).mp hlater
          by_cases hne : p.key = q.key
          · obtain rfl := h.eq_of_key hp hq hne
            have hkept := htakes p hp
            rw [hself, Takes, h.get_set p hp] at hkept
            rw [Fields.get?_cons_self, Takes, hkept, hx]
          · exact (hother p hp hne x).mp (htakes p hp)
        · intro htakes
          have hread := htakes q hq
          rw [Fields.get?_cons_self, Takes] at hread
          refine ⟨q.set s (q.get t), (putField_ok_iff h hq).mpr ⟨_, hread, rfl⟩, (ih hrest).mpr ?_⟩
          intro p hp
          by_cases hne : p.key = q.key
          · obtain rfl := h.eq_of_key hp hq hne
            rw [hself, Takes, h.get_set p hp]
          · exact (hother p hp hne _).mpr (htakes p hp)
      · have hskip : Setting.putField (slots.map setting) dialect s (name, value) = .ok s :=
          putField_of_forall_ne hnone
        have hsame :
            (∀ p ∈ slots, p.Takes dialect (Fields.get? p.key ((name, value) :: fields)) s t) ↔
              ∀ p ∈ slots, p.Takes dialect (Fields.get? p.key fields) s t := by
          apply forall₂_congr
          intro p hp
          rw [Fields.get?_cons_ne (Ne.symm (hnone p hp))]
        rw [hsame, ← ih hrest]
        constructor
        · rintro ⟨_, hput, hlater⟩
          obtain rfl := Except.ok.inj (hskip.symm.trans hput)
          exact hlater
        · intro hlater
          exact ⟨s, hskip, hlater⟩

/-- The reading goes well if every field of a slot can be read. -/
theorem exists_putFields_iff (h : Lawful slots) (hnodup : fields.names.Nodup) :
    (∃ t, Setting.putFields (slots.map setting) dialect s fields = .ok t) ↔
      ∀ p ∈ slots, ∀ value, Fields.get? p.key fields = some value →
        ∃ x, p.reader dialect value = .ok x := by
  constructor
  · rintro ⟨t, ht⟩ p hp value hvalue
    have htakes := (putFields_ok_iff h hnodup).mp ht p hp
    rw [hvalue] at htakes
    exact ⟨_, htakes⟩
  · intro hreadable
    induction fields generalizing s with
    | nil => exact ⟨s, rfl⟩
    | cons field fields ih =>
        obtain ⟨name, value⟩ := field
        obtain ⟨hname, hrest⟩ := List.nodup_cons.mp hnodup
        have hlater (s : σ) :
            ∃ t, Setting.putFields (slots.map setting) dialect s fields = .ok t := by
          apply ih hrest
          intro p hp other hother
          apply hreadable p hp other
          rw [Fields.get?_cons_ne, hother]
          rintro rfl
          rw [Fields.get?_eq_none_iff.mpr hname] at hother
          cases hother
        rcases exists_or_forall_ne slots name with ⟨q, hq, rfl⟩ | hnone
        · obtain ⟨x, hx⟩ := hreadable q hq value Fields.get?_cons_self
          obtain ⟨t, ht⟩ := hlater (q.set s x)
          have hfield := (putField_ok_iff (s := s) h hq).mpr ⟨x, hx, rfl⟩
          exact ⟨t, Setting.putFields_cons_ok_iff.mpr ⟨_, hfield, ht⟩⟩
        · obtain ⟨t, ht⟩ := hlater s
          exact ⟨t, Setting.putFields_cons_ok_iff.mpr ⟨s, putField_of_forall_ne hnone, ht⟩⟩

/-! ### What is in a record that has been read -/

/-- A slot has what it had before, or what was read from some value. -/
def Obtained (p : Slot σ) (dialect : Dialect) (s t : σ) : Prop :=
  p.get t = p.get s ∨ ∃ value, p.reader dialect value = .ok (p.get t)

theorem obtained_of_put (h : Lawful slots) {setting : Setting σ}
    (hsetting : setting ∈ slots.map Slot.setting) {s' : σ} {value : Value}
    (hput : setting.put dialect s' value = .ok t) {p : Slot σ} (hp : p ∈ slots)
    (hbefore : p.Obtained dialect s s') : p.Obtained dialect s t := by
  obtain ⟨q, hq, rfl⟩ := List.mem_map.mp hsetting
  obtain ⟨x, hx, rfl⟩ := Setting.of_put_ok_iff.mp hput
  by_cases hne : p.key = q.key
  · obtain rfl := h.eq_of_key hp hq hne
    exact Or.inr ⟨value, by rw [h.get_set p hp, hx]⟩
  · rw [Obtained, h.get_set_ne hp hq hne]
    exact hbefore

theorem obtained_of_putFields (h : Lawful slots) {s' : σ}
    (hput : Setting.putFields (slots.map setting) dialect s' fields = .ok t) {p : Slot σ}
    (hp : p ∈ slots) (hbefore : p.Obtained dialect s s') : p.Obtained dialect s t := by
  induction fields generalizing s' with
  | nil =>
      cases hput
      exact hbefore
  | cons field fields ih =>
      obtain ⟨s'', hfield, hrest⟩ := Setting.putFields_cons_ok_iff.mp hput
      apply ih hrest
      unfold Setting.putField at hfield
      cases hfind : (slots.map setting).find? (·.key == field.1) with
      | none =>
          rw [hfind] at hfield
          cases hfield
          exact hbefore
      | some a =>
          rw [hfind, Reader.under_ok_iff] at hfield
          exact obtained_of_put h (List.mem_of_find?_eq_some hfind) hfield hp hbefore

theorem obtained_of_putItems (h : Lawful slots) {settings : List (Setting σ)}
    (hsettings : settings ⊆ slots.map setting) {index : Nat} {items : List Value} {s' : σ}
    (hput : Setting.putItems dialect s' index settings items = .ok t) {p : Slot σ}
    (hp : p ∈ slots) (hbefore : p.Obtained dialect s s') : p.Obtained dialect s t := by
  induction items generalizing s' index settings with
  | nil =>
      rw [Setting.putItems] at hput
      cases hput
      exact hbefore
  | cons item items ih =>
      cases settings with
      | nil =>
          cases hput
          exact hbefore
      | cons a settings =>
          obtain ⟨ha, hrest⟩ := List.cons_subset.mp hsettings
          rw [Setting.putItems] at hput
          cases hitem : Reader.under (String.ofList (Text.digits index))
              (a.put dialect s' item) with
          | error _ =>
              rw [hitem] at hput
              cases hput
          | ok s'' =>
              rw [hitem] at hput
              exact ih hrest hput (obtained_of_put h ha (Reader.under_ok_iff.mp hitem) hp hbefore)

theorem obtained_of_read (h : Lawful slots) {name : String} {value : Value}
    (hread : Setting.readRecord name (slots.map setting) s dialect value = .ok t) {p : Slot σ}
    (hp : p ∈ slots) : p.Obtained dialect s t := by
  cases value with
  | record fields => exact obtained_of_putFields h hread hp (Or.inl rfl)
  | list items =>
      change (Setting.putItems dialect s 0 (slots.map setting) items).bind _ = .ok t at hread
      cases hitems : Setting.putItems dialect s 0 (slots.map setting) items with
      | error _ =>
          rw [hitems] at hread
          cases hread
      | ok s' =>
          rw [hitems] at hread
          dsimp only [Except.bind] at hread
          split at hread
          · cases hread
          · cases hread
            exact obtained_of_putItems h (List.Subset.refl _) hitems hp (Or.inl rfl)
  | _ => cases hread

/-! ### Written records -/

/-- The fields have the form of a record, and each slot has what it is written as. -/
structure Writes (slots : List (Slot σ)) (s : σ) (fields : Fields) : Prop where
  sorted : Fields.Sorted fields
  get? : ∀ p ∈ slots, Fields.get? p.key fields = some (p.write (p.get s))

end Slot

/-- What an optional setting is written as. -/
def Value.ofOption {α : Type} (write : α → Value) (x : Option α) : Value := (x.map write).getD .null

/-- What a duration is written as. -/
def Value.ofDuration (d : Duration) : Value := .text d.written

namespace RetrySettings

def factorSlot : Slot RetrySettings :=
  ⟨_, "multiplier", Reader.factor, writtenFactor, multiplier, fun s v => { s with multiplier := v }⟩

def slots : List (Slot RetrySettings) := [
  ⟨_, "enabled", Reader.bool, .bool, enabled, fun s v => { s with enabled := v }⟩,
  ⟨Nat, "max_attempts", Reader.count, fun n => .int n, maxAttempts,
    fun s v => { s with maxAttempts := v }⟩,
  ⟨_, "initial_backoff", Reader.duration, .ofDuration, initialBackoff,
    fun s v => { s with initialBackoff := v }⟩,
  ⟨_, "max_backoff", Reader.duration, .ofDuration, maxBackoff,
    fun s v => { s with maxBackoff := v }⟩,
  factorSlot,
  ⟨_, "max_elapsed_time", Reader.optional Reader.duration, .ofOption .ofDuration, maxElapsed,
    fun s v => { s with maxElapsed := v }⟩,
  ⟨_, "attempt_timeout", Reader.optional Reader.duration, .ofOption .ofDuration, attemptTimeout,
    fun s v => { s with attemptTimeout := v }⟩]

theorem settings_eq : settings = slots.map Slot.setting := rfl

theorem lawful : Slot.Lawful slots where
  nodup := by decide
  get_set := by simp [slots, factorSlot]
  apart := by simp [slots, factorSlot]
  ext s t h := by
    simp only [slots, List.mem_cons, List.not_mem_nil, or_false, forall_eq_or_imp, forall_eq] at h
    cases s
    cases t
    simp only [mk.injEq]
    exact h

theorem exists_writes (s : RetrySettings) :
    ∃ fields, s.written = .record fields ∧ Slot.Writes slots s fields := by
  refine ⟨_, rfl, ?_, ?_⟩
  · apply (List.pairwise_map (f := Prod.fst) (R := (· < ·))).mp
    simp only [List.map_cons, List.map_nil]
    decide
  · simp only [slots, List.mem_cons, List.not_mem_nil, or_false, forall_eq_or_imp, forall_eq]
    exact ⟨rfl, rfl, rfl, rfl, rfl, rfl, rfl⟩

end RetrySettings

namespace Settings

def retrySlot : Slot Settings :=
  ⟨_, "retry", RetrySettings.read, RetrySettings.written, retry, fun s v => { s with retry := v }⟩

def slots : List (Slot Settings) := [
  ⟨_, "authn_url", Reader.text, .text, authnUrl, fun s v => { s with authnUrl := v }⟩,
  ⟨_, "account", Reader.text, .text, account, fun s v => { s with account := v }⟩,
  ⟨_, "authn_login", Reader.optional Reader.text, .ofOption .text, login,
    fun s v => { s with login := v }⟩,
  ⟨_, "authn_type", Reader.optional Reader.text, .ofOption .text, strategy,
    fun s v => { s with strategy := v }⟩,
  ⟨_, "version", Reader.version, fun v => .int v.number, version,
    fun s v => { s with version := v }⟩,
  ⟨_, "ssl_certificate", Reader.optional Reader.text, .ofOption .text, authorityText,
    fun s v => { s with authorityText := v }⟩,
  ⟨_, "ssl_certificate_path", Reader.optional Reader.path, .ofOption .text, authorityPath,
    fun s v => { s with authorityPath := v }⟩,
  ⟨_, "pod_name", Reader.optional Reader.text, .ofOption .text, podName,
    fun s v => { s with podName := v }⟩,
  ⟨_, "pod_namespace", Reader.optional Reader.text, .ofOption .text, podNamespace,
    fun s v => { s with podNamespace := v }⟩,
  ⟨_, "client_cert_path", Reader.path, .text, certificatePath,
    fun s v => { s with certificatePath := v }⟩,
  ⟨Nat, "client_cert_retry_count_limit", Reader.count, fun n => .int n, certificateRetryLimit,
    fun s v => { s with certificateRetryLimit := v }⟩,
  ⟨_, "client_cert_poll_interval", Reader.duration, .ofDuration, certificatePollInterval,
    fun s v => { s with certificatePollInterval := v }⟩,
  ⟨_, "cert_expiry_buffer", Reader.duration, .ofDuration, expiryBuffer,
    fun s v => { s with expiryBuffer := v }⟩,
  ⟨_, "jwt_token_path", Reader.path, .text, bearerPath, fun s v => { s with bearerPath := v }⟩,
  ⟨_, "gcp_metadata_url", Reader.text, .text, metadataUrl, fun s v => { s with metadataUrl := v }⟩,
  ⟨_, "gcp_audience_prefix", Reader.text, .text, audienceRoot,
    fun s v => { s with audienceRoot := v }⟩,
  ⟨_, "access_token_path", Reader.optional Reader.path, .ofOption .text, tokenPath,
    fun s v => { s with tokenPath := v }⟩,
  ⟨_, "token_refresh_interval", Reader.duration, .ofDuration, refreshInterval,
    fun s v => { s with refreshInterval := v }⟩,
  ⟨_, "request_timeout", Reader.duration, .ofDuration, requestTimeout,
    fun s v => { s with requestTimeout := v }⟩,
  ⟨_, "container_mode", Reader.mode, fun m => .text m.name, mode,
    fun s v => { s with mode := v }⟩,
  retrySlot]

theorem settings_eq : settings = slots.map Slot.setting := rfl

theorem lawful : Slot.Lawful slots where
  nodup := by decide
  get_set := by simp [slots, retrySlot]
  apart := by simp [slots, retrySlot]
  ext s t h := by
    simp only [slots, List.mem_cons, List.not_mem_nil, or_false, forall_eq_or_imp, forall_eq] at h
    cases s
    cases t
    simp only [mk.injEq]
    exact h

theorem exists_writes (s : Settings) :
    ∃ fields, s.written = .record fields ∧ Slot.Writes slots s fields := by
  refine ⟨_, rfl, ?_, ?_⟩
  · apply (List.pairwise_map (f := Prod.fst) (R := (· < ·))).mp
    simp only [List.map_cons, List.map_nil]
    decide
  · simp only [slots, List.mem_cons, List.not_mem_nil, or_false, forall_eq_or_imp, forall_eq]
    refine ⟨?_, ?_, ?_, ?_, ?_, ?_, ?_, ?_, ?_, ?_, ?_, ?_, ?_, ?_, ?_, ?_, ?_, ?_, ?_, ?_, ?_⟩
    all_goals rfl

end Settings

end WorkloadIdentity
