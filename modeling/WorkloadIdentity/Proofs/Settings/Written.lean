import WorkloadIdentity.Proofs.Duration
import WorkloadIdentity.Proofs.Settings.Slots

/-!
Settings that are written and read again. What has been read for a setting is read again from what
it is written as: a duration, since only those can be read that the written form says exactly; a
version and a mode, since each of them is written in one of the forms that it is read from. The
multiplier is the one exception. It may be read from a number that its format is too small for, and
what comes of that is written as no number at all.
-/

namespace WorkloadIdentity

namespace Reader

variable {α : Type}

/-- What can be read is read again from what it is written as, in either dialect. -/
def ReadsBack (reader : Reader α) (write : α → Value) : Prop :=
  ∀ dialect dialect' value x, reader dialect value = .ok x → reader dialect' (write x) = .ok x

theorem textAs_readsBack (expected : String) : (textAs expected).ReadsBack .text := by
  intro _ _ _ _ _
  rfl

@[simp] theorem text_readsBack : text.ReadsBack .text := textAs_readsBack _

@[simp] theorem path_readsBack : path.ReadsBack .text := textAs_readsBack _

@[simp] theorem bool_readsBack : bool.ReadsBack .bool := by
  intro _ _ _ _ _
  rfl

theorem lt_of_count {dialect : Dialect} {value : Value} {n : Nat}
    (h : count dialect value = .ok n) : n < word32 := by
  cases value with
  | int i =>
      simp only [count] at h
      split at h
      · next hfits =>
          cases h
          have hi : i < (word32 : Int) := hfits.2
          omega
      · split at h
        · cases h
        · cases h
  | negativeZero =>
      cases h
      decide
  | _ => cases h

@[simp] theorem count_readsBack : count.ReadsBack fun n => .int n := by
  intro _ _ _ n h
  have hn : 0 ≤ (n : Int) ∧ (n : Int) < word32 :=
    ⟨Int.natCast_nonneg n, Int.ofNat_lt.mpr (lt_of_count h)⟩
  rw [count, if_pos hn, Int.toNat_natCast]

@[simp] theorem version_readsBack : version.ReadsBack fun v => .int v.number := by
  intro _ dialect' _ v _
  cases v <;> cases dialect' <;> decide

@[simp] theorem mode_readsBack : mode.ReadsBack fun m => .text m.name := by
  intro _ dialect' _ m _
  cases m <;> cases dialect' <;> decide

theorem exact_of_duration {dialect : Dialect} {value : Value} {d : Duration}
    (h : duration dialect value = .ok d) : d.Exact := by
  unfold duration at h
  cases htext : numberOrText "RawDuration" dialect value with
  | error _ =>
      rw [htext] at h
      cases h
  | ok text =>
      rw [htext] at h
      cases hparse : Duration.parse text with
      | error _ =>
          dsimp only [bind, Except.bind] at h
          rw [hparse] at h
          cases h
      | ok d' =>
          dsimp only [bind, Except.bind] at h
          rw [hparse] at h
          cases h
          exact Duration.exact_of_parse hparse

theorem duration_text_of_parse {dialect : Dialect} {raw : String} {d : Duration}
    (h : Duration.parse raw = .ok d) : duration dialect (.text raw) = .ok d := by
  have htext : numberOrText "RawDuration" dialect (.text raw) = .ok raw := rfl
  simp only [duration, htext, bind, Except.bind, h]

@[simp] theorem duration_readsBack : duration.ReadsBack .ofDuration := by
  intro _ _ _ _ h
  exact duration_text_of_parse (Duration.parse_written (exact_of_duration h))

/-- A setting that may be left out is written as null when it is. -/
theorem optional_readsBack {reader : Reader α} {write : α → Value} (h : reader.ReadsBack write)
    (hnull : ∀ x, write x ≠ .null) : (optional reader).ReadsBack (.ofOption write) := by
  intro dialect dialect' value x hread
  cases x with
  | none => rfl
  | some x =>
      have hvalue : reader dialect value = .ok x := by
        cases value with
        | null => cases hread
        | _ =>
            change (reader dialect _).map some = .ok (some x) at hread
            cases hreader : reader dialect _ with
            | error _ =>
                rw [hreader] at hread
                cases hread
            | ok y =>
                rw [hreader] at hread
                cases hread
                rfl
      have hback := h dialect dialect' value x hvalue
      change optional reader dialect' (write x) = .ok (some x)
      unfold optional
      split
      · next hwrite => exact absurd hwrite (hnull x)
      · rw [hback]
        rfl

@[simp] theorem optionalText_readsBack : (optional text).ReadsBack (.ofOption .text) :=
  optional_readsBack text_readsBack fun _ => nofun

@[simp] theorem optionalPath_readsBack : (optional path).ReadsBack (.ofOption .text) :=
  optional_readsBack path_readsBack fun _ => nofun

@[simp] theorem optionalDuration_readsBack :
    (optional duration).ReadsBack (.ofOption .ofDuration) :=
  optional_readsBack duration_readsBack fun _ => nofun

end Reader

/-- A number, unlike an infinity. -/
def Floating.isFinite : Floating → Bool
  | .finite .. => true
  | .nan | .infinite _ => false

/-- The multiplier is read again if it is a number. -/
theorem Reader.factor_written_iff {dialect : Dialect} {x : Floating} :
    (∃ y, Reader.factor dialect (RetrySettings.writtenFactor x) = .ok y) ↔ x.isFinite = true := by
  cases x with
  | finite negative mantissa exponent => exact ⟨fun _ => rfl, fun _ => ⟨_, rfl⟩⟩
  | nan => exact ⟨nofun, nofun⟩
  | infinite _ => exact ⟨nofun, nofun⟩

namespace Slot

variable {σ : Type} {slots : List (Slot σ)} {dialect : Dialect} {s t : σ} {fields : Fields}

/-- What the slot has could be read from some value. -/
def Readable (p : Slot σ) (s : σ) : Prop :=
  ∃ dialect value, p.reader dialect value = .ok (p.get s)

theorem readable_of_obtained {p : Slot σ} (hbase : p.Readable s) (h : p.Obtained dialect s t) :
    p.Readable t := by
  rcases h with hkept | hread
  · rw [Readable, hkept]
    exact hbase
  · exact ⟨dialect, hread⟩

/-- A written record is read slot by slot. -/
theorem putFields_written_iff (h : Lawful slots) (hwrites : Writes slots s fields) {base : σ} :
    Setting.putFields (slots.map setting) dialect base fields = .ok t ↔
      ∀ p ∈ slots, p.reader dialect (p.write (p.get s)) = .ok (p.get t) := by
  rw [putFields_ok_iff h (Fields.nodup_names hwrites.sorted)]
  apply forall₂_congr
  intro p hp
  rw [hwrites.get? p hp, Takes]

/-- It is read again but for one slot, if what all others have is. -/
theorem read_written_iff (h : Lawful slots) (hwrites : Writes slots s fields) {q : Slot σ}
    (hq : q ∈ slots) (hback : ∀ p ∈ slots, p.key ≠ q.key → p.reader.ReadsBack p.write)
    (hreadable : ∀ p ∈ slots, p.Readable s) {base : σ} :
    Setting.putFields (slots.map setting) dialect base fields = .ok t ↔
      ∃ x, q.reader dialect (q.write (q.get s)) = .ok x ∧ t = q.set s x := by
  have hother (p : Slot σ) (hp : p ∈ slots) (hkey : p.key ≠ q.key) :
      p.reader dialect (p.write (p.get s)) = .ok (p.get s) := by
    obtain ⟨_, _, hread⟩ := hreadable p hp
    exact hback p hp hkey _ dialect _ _ hread
  rw [putFields_written_iff h hwrites]
  constructor
  · intro hall
    refine ⟨q.get t, hall q hq, h.ext _ _ fun p hp => ?_⟩
    by_cases hkey : p.key = q.key
    · rw [h.eq_of_key hp hq hkey, h.get_set q hq]
    · rw [h.get_set_ne hp hq hkey]
      exact Except.ok.inj ((hall p hp).symm.trans (hother p hp hkey))
  · rintro ⟨x, hx, rfl⟩ p hp
    by_cases hkey : p.key = q.key
    · rw [h.eq_of_key hp hq hkey, hx, h.get_set q hq]
    · rw [hother p hp hkey, h.get_set_ne hp hq hkey]

end Slot

namespace RetrySettings

variable {dialect dialect' : Dialect} {value : Value} {s t : RetrySettings}

theorem readsBack : ∀ p ∈ slots, p.key ≠ factorSlot.key → p.reader.ReadsBack p.write := by
  simp [slots, factorSlot]

theorem slot_of_read_written (h : read dialect s.written = .ok t) :
    ∀ p ∈ slots, p.reader dialect (p.write (p.get s)) = .ok (p.get t) := by
  obtain ⟨fields, hwritten, hwrites⟩ := exists_writes s
  rw [hwritten] at h
  exact (Slot.putFields_written_iff lawful hwrites).mp h

theorem read_written_base : read .json base.written = .ok base := by decide

theorem readable_of_read (h : read dialect value = .ok s) : ∀ p ∈ slots, p.Readable s := by
  intro p hp
  apply Slot.readable_of_obtained ⟨_, _, slot_of_read_written read_written_base p hp⟩
  exact Slot.obtained_of_read lawful h hp

/-- All is read again but the multiplier, for which it depends on its value. -/
theorem read_written_iff (h : read dialect value = .ok s) :
    read dialect' s.written = .ok t ↔
      ∃ x, Reader.factor dialect' (writtenFactor s.multiplier) = .ok x ∧
        t = { s with multiplier := x } := by
  obtain ⟨fields, hwritten, hwrites⟩ := exists_writes s
  rw [hwritten]
  exact Slot.read_written_iff lawful hwrites (by simp [slots]) readsBack (readable_of_read h)

end RetrySettings

namespace Settings

variable {dialect dialect' : Dialect} {value : Value} {s t : Settings}

theorem readsBack : ∀ p ∈ slots, p.key ≠ retrySlot.key → p.reader.ReadsBack p.write := by
  simp [slots, retrySlot]

theorem slot_of_read_written (h : read dialect s.written = .ok t) :
    ∀ p ∈ slots, p.reader dialect (p.write (p.get s)) = .ok (p.get t) := by
  obtain ⟨fields, hwritten, hwrites⟩ := exists_writes s
  rw [hwritten] at h
  exact (Slot.putFields_written_iff lawful hwrites).mp h

theorem read_written_default : read .layered default.written = .ok default := by decide

theorem readable_of_read (h : read dialect value = .ok s) : ∀ p ∈ slots, p.Readable s := by
  intro p hp
  apply Slot.readable_of_obtained ⟨_, _, slot_of_read_written read_written_default p hp⟩
  exact Slot.obtained_of_read lawful h hp

/-- All settings are read again but the multiplier. -/
theorem read_written_iff (h : read dialect value = .ok s) :
    read dialect' s.written = .ok t ↔
      ∃ x, Reader.factor dialect' (RetrySettings.writtenFactor s.retry.multiplier) = .ok x ∧
        t = { s with retry := { s.retry with multiplier := x } } := by
  obtain ⟨fields, hwritten, hwrites⟩ := exists_writes s
  obtain ⟨_, _, hretry⟩ := readable_of_read h retrySlot (by simp [slots])
  rw [hwritten]
  have hretrySlot : retrySlot ∈ slots := by simp [slots]
  refine (Slot.read_written_iff lawful hwrites hretrySlot readsBack (readable_of_read h)).trans ?_
  constructor
  · rintro ⟨r, hr, rfl⟩
    obtain ⟨x, hx, rfl⟩ := (RetrySettings.read_written_iff hretry).mp hr
    exact ⟨x, hx, rfl⟩
  · rintro ⟨x, hx, rfl⟩
    exact ⟨_, (RetrySettings.read_written_iff hretry).mpr ⟨x, hx, rfl⟩, rfl⟩

/-- Settings that have been read are read again from what they are written as, in either dialect,
exactly if their multiplier is a number. Then nothing is lost but what becomes of the multiplier:
every duration, version, mode and optional setting is as it was. -/
theorem written_is_read_back_iff (h : read dialect value = .ok s) :
    ((∃ t, read dialect' s.written = .ok t) ↔ s.retry.multiplier.isFinite = true) ∧
      ∀ t, read dialect' s.written = .ok t →
        t = { s with retry := { s.retry with multiplier := t.retry.multiplier } } := by
  constructor
  · have hfactor := @Reader.factor_written_iff dialect' s.retry.multiplier
    rw [← hfactor]
    constructor
    · rintro ⟨t, ht⟩
      obtain ⟨x, hx, _⟩ := (read_written_iff h).mp ht
      exact ⟨x, hx⟩
    · rintro ⟨x, hx⟩
      exact ⟨_, (read_written_iff h).mpr ⟨x, hx, rfl⟩⟩
  · intro t ht
    obtain ⟨x, _, rfl⟩ := (read_written_iff h).mp ht
    rfl

/-- Durations at the ends of their units, a version with a letter, and a mode as a record. -/
def longest : Fields := [
  ("client_cert_poll_interval", .text " 18446744073709551615 ms "),
  ("container_mode", .record [("init", .null)]),
  ("request_timeout", .int 18446744073709551615),
  ("retry", .record [("attempt_timeout", .text "307445734561825860m"), ("multiplier", .int 3)]),
  ("version", .text "v4")]

def longestRead : Settings := { default with
  certificatePollInterval := ⟨(word64 - 1) * 1000000, by decide⟩
  mode := .init
  requestTimeout := ⟨(word64 - 1) * nanosPerSec, by decide⟩
  version := .v4
  retry := { RetrySettings.base with
    attemptTimeout := some ⟨307445734561825860 * 60 * nanosPerSec, by decide⟩
    multiplier := Floating.ofInt .single 3 } }

theorem written_is_read_back_iff_longest :
    read .json (.record longest) = .ok longestRead ∧
    longestRead.retry.multiplier.isFinite = true ∧
    ∃ t, read .json longestRead.written = .ok t ∧
      t = { longestRead with
        retry := { longestRead.retry with multiplier := t.retry.multiplier } } := by
  have h : read .json (.record longest) = .ok longestRead := by decide
  have hfinite : longestRead.retry.multiplier.isFinite = true := by decide
  obtain ⟨hback, hsame⟩ := @written_is_read_back_iff .json .json _ _ h
  obtain ⟨t, ht⟩ := hback.mpr hfinite
  exact ⟨h, hfinite, t, ht, hsame t ht⟩

/-- A body whose multiplier is larger than its format goes. -/
def hugeFactor : Json :=
  .object [(Utf8.ofString "retry",
    .object [(Utf8.ofString "multiplier", .number ⟨false, 1, 39, false⟩)])]

/-- It is read, but what is written of it is refused. -/
theorem huge_factor_is_not_read_back :
    ∃ value s, Value.ofJson? hugeFactor = some value ∧ read .json value = .ok s ∧
      s = { default with retry := { RetrySettings.base with multiplier := .infinite false } } ∧
      read .json s.written = .error ⟨["retry", "multiplier"], .wrongType "null" "f32"⟩ := by
  have hretry : Json.readText? (Utf8.ofString "retry") = some "retry" := by decide +kernel
  have hname : Json.readText? (Utf8.ofString "multiplier") = some "multiplier" := by decide +kernel
  refine ⟨.record [("retry", .record [("multiplier", .ofDecimal ⟨false, 1, 39, false⟩)])],
    { default with retry := { RetrySettings.base with multiplier := .infinite false } },
    ?_, ?_, rfl, ?_⟩
  · simp only [hugeFactor, Value.ofJson?, Value.ofJsonMembers?, hretry, hname]
    rfl
  · decide
  · decide

end Settings

end WorkloadIdentity
