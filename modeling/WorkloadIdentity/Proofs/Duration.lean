import WorkloadIdentity.Duration
import WorkloadIdentity.Proofs.Text.Blank
import WorkloadIdentity.Proofs.Text.Decimal

/-!
Durations in the form of settings. What is read is a number with a unit behind it: `Spelled` says
which texts those are, and a count that its unit takes out of range is the only other thing that
can be wrong. So what is read is a whole number of seconds, or a whole number of milliseconds that
fits a word. The written form says either exactly, and each duration that is read from settings is
read from its written form again.
-/

namespace WorkloadIdentity.Duration

variable {d : Duration} {raw : String} {n : Nat} {scale : Scale}

/-! ### Ranges -/

theorem ofNanos?_eq_some_iff : ofNanos? n = some d ↔ d.nanos = n := by
  obtain ⟨nanos, hnanos⟩ := d
  unfold ofNanos?
  constructor
  · intro h
    split at h
    · cases h
      rfl
    · cases h
  · rintro rfl
    rw [dif_pos hnanos]

theorem add?_eq_some_iff {a b total : Duration} :
    a.add? b = some total ↔ total.nanos = a.nanos + b.nanos :=
  ofNanos?_eq_some_iff

theorem add?_eq_none_iff {a b : Duration} :
    a.add? b = none ↔ word64 * nanosPerSec ≤ a.nanos + b.nanos := by
  unfold add? ofNanos?
  constructor
  · intro h
    split at h
    · cases h
    · next hover => exact Nat.le_of_not_lt hover
  · intro hover
    rw [dif_neg (Nat.not_lt_of_le hover)]

theorem ofSecs?_eq_some_iff : ofSecs? n = some d ↔ d.nanos = n * nanosPerSec := by
  obtain ⟨nanos, hnanos⟩ := d
  unfold ofSecs?
  constructor
  · intro h
    split at h
    · cases h
      rfl
    · cases h
  · rintro rfl
    rw [dif_pos (Nat.lt_of_mul_lt_mul_right hnanos)]

/-- What a count is multiplied by before it is the word of a duration: minutes and hours are turned
into seconds, while seconds and milliseconds are taken as they are. -/
def Scale.factor : Scale → Nat
  | .millis | .secs => 1
  | .mins => 60
  | .hours => 3600

/-- The nanoseconds of a unit. -/
def Scale.nanos : Scale → Nat
  | .millis => 1000000
  | .secs => nanosPerSec
  | .mins => 60 * nanosPerSec
  | .hours => 3600 * nanosPerSec

theorem Scale.span?_eq_some_iff : scale.span? n = some d ↔ d.nanos = n * scale.nanos := by
  cases scale with
  | millis => exact ofNanos?_eq_some_iff
  | secs => exact ofSecs?_eq_some_iff
  | mins => rw [span?, ofSecs?_eq_some_iff, nanos, Nat.mul_assoc]
  | hours => rw [span?, ofSecs?_eq_some_iff, nanos, Nat.mul_assoc]

theorem Scale.lt_of_factor (h : n * scale.factor < word64) : n < word64 := by
  have hfactor : 0 < scale.factor := by
    cases scale <;> decide
  exact Nat.lt_of_le_of_lt (Nat.le_mul_of_pos_right n hfactor) h

/-- The word of a duration has to fit, and that is all. -/
theorem Scale.exists_nanos_iff (hn : n < word64) :
    (∃ d : Duration, d.nanos = n * scale.nanos) ↔ n * scale.factor < word64 := by
  have hexists (k : Nat) : (∃ d : Duration, d.nanos = k) ↔ k < word64 * nanosPerSec :=
    ⟨fun ⟨d, hd⟩ => hd ▸ d.nanos_lt, fun hk => ⟨⟨k, hk⟩, rfl⟩⟩
  rw [hexists]
  unfold word64 at *
  cases scale <;> simp only [Scale.nanos, Scale.factor, nanosPerSec] <;> omega

/-! ### The unit at the end -/

theorem beforeSuffix?_eq_some_iff {suffix cs front : List Char} :
    beforeSuffix? suffix cs = some front ↔ cs = front ++ suffix := by
  unfold beforeSuffix?
  constructor
  · intro h
    split at h
    · next hsuffix =>
        obtain ⟨before, rfl⟩ := List.isSuffixOf_iff_suffix.mp hsuffix
        rw [List.length_append, Nat.add_sub_cancel, List.take_left] at h
        rw [Option.some.inj h]
    · cases h
  · rintro rfl
    have hsuffix : suffix.isSuffixOf (front ++ suffix) = true :=
      List.isSuffixOf_iff_suffix.mpr (List.suffix_append front suffix)
    rw [if_pos hsuffix, List.length_append, Nat.add_sub_cancel, List.take_left]

/-- A text is compared with a unit from its end. -/
private theorem beforeSuffix?_eq_none {suffix cs : List Char}
    (h : suffix.reverse.isPrefixOf cs.reverse = false) : beforeSuffix? suffix cs = none := by
  rw [beforeSuffix?, List.isSuffixOf, h, if_neg Bool.false_ne_true]

/-- A unit has been found at the end, or the text is a count of seconds as a whole. -/
theorem splitScale_cases {cs front : List Char} (h : splitScale cs = (front, scale)) :
    cs = front ++ scale.suffix.toList ∨ front = cs ∧ scale = .secs := by
  unfold splitScale at h
  dsimp only at h
  cases hfound : Scale.all.findSome? fun scale =>
      (beforeSuffix? scale.suffix.toList cs).map (·, scale) with
  | none =>
      rw [hfound] at h
      cases h
      exact Or.inr ⟨rfl, rfl⟩
  | some found =>
      obtain ⟨unit, -, hunit⟩ := List.exists_of_findSome?_eq_some hfound
      obtain ⟨before, hbefore, rfl⟩ := Option.map_eq_some_iff.mp hunit
      rw [hfound] at h
      cases h
      exact Or.inl (beforeSuffix?_eq_some_iff.mp hbefore)

/-- The unit at the end is the one that is found, unless there is an `m` in front of it. -/
theorem splitScale_append {front : List Char} (h : ∀ before, front ≠ before ++ ['m'])
    (scale : Scale) : splitScale (front ++ scale.suffix.toList) = (front, scale) := by
  have hunit : beforeSuffix? scale.suffix.toList (front ++ scale.suffix.toList) = some front :=
    beforeSuffix?_eq_some_iff.mpr rfl
  have hfront : ['m'].isPrefixOf front.reverse = false := by
    rw [Bool.eq_false_iff, ne_eq, List.isPrefixOf_iff_prefix]
    rintro ⟨rest, hrest⟩
    exact h rest.reverse (List.reverse_injective (by simp [← hrest]))
  -- The units differ in their last letters, but for `ms` and `s`.
  have hother (other : Scale) (hdiffer : other.suffix.toList.reverse.isPrefixOf
      (scale.suffix.toList.reverse ++ front.reverse) = false) :
      beforeSuffix? other.suffix.toList (front ++ scale.suffix.toList) = none :=
    beforeSuffix?_eq_none (by rw [List.reverse_append, hdiffer])
  unfold splitScale Scale.all
  cases scale with
  | millis => simp only [List.findSome?_cons, hunit, Option.map_some, Option.getD_some]
  | secs =>
      have hmillis := hother .millis (by simpa [Scale.suffix, List.isPrefixOf] using hfront)
      simp only [List.findSome?_cons, hmillis, hunit, Option.map_none, Option.map_some,
        Option.getD_some]
  | mins =>
      have hmillis := hother .millis (by simp [Scale.suffix, List.isPrefixOf])
      have hsecs := hother .secs (by simp [Scale.suffix, List.isPrefixOf])
      simp only [List.findSome?_cons, hmillis, hsecs, hunit, Option.map_none, Option.map_some,
        Option.getD_some]
  | hours =>
      have hmillis := hother .millis (by simp [Scale.suffix, List.isPrefixOf])
      have hsecs := hother .secs (by simp [Scale.suffix, List.isPrefixOf])
      have hmins := hother .mins (by simp [Scale.suffix, List.isPrefixOf])
      simp only [List.findSome?_cons, hmillis, hsecs, hmins, hunit, Option.map_none,
        Option.map_some, Option.getD_some]

/-- No unit is found behind a digit. -/
theorem splitScale_of_digit {front : List Char} {c : Char} (h : c.isDigit = true) :
    splitScale (front ++ [c]) = (front ++ [c], .secs) := by
  have hnone : Scale.all.findSome? (fun scale =>
      (beforeSuffix? scale.suffix.toList (front ++ [c])).map (·, scale)) = none := by
    rw [List.findSome?_eq_none_iff]
    intro scale _
    have hletter : scale.suffix.toList.reverse.head? ≠ some c := by
      rintro hlast
      cases scale <;> cases hlast <;> cases h
    rw [beforeSuffix?_eq_none, Option.map_none]
    rw [List.reverse_append, List.reverse_singleton, List.singleton_append]
    cases hunit : scale.suffix.toList.reverse with
    | nil => cases scale <;> cases hunit
    | cons last rest =>
        rw [hunit] at hletter
        simp_all [List.isPrefixOf]
  rw [splitScale, hnone, Option.getD_none]

/-! ### The grammar -/

/-- The text says this many of a unit: a number of seconds by itself, or a number, blanks that
there may be, and a unit. -/
inductive Spelled (n : Nat) : Scale → List Char → Prop
  | bare {cs : List Char} : Text.IsNumeral cs n → Spelled n .secs cs
  | unit {cs blanks : List Char} (scale : Scale) : Text.IsNumeral cs n →
      (∀ c ∈ blanks, Text.isBlank c = true) →
      Spelled n scale (cs ++ blanks ++ scale.suffix.toList)

theorem isBlank_of_isDigit {c : Char} (h : c.isDigit = true) : Text.isBlank c = false := by
  have hrange : 48 ≤ c.toNat ∧ c.toNat ≤ 57 := Char.isDigit_iff_toNat.mp h
  simp only [Text.isBlank, Bool.or_eq_false_iff, Bool.and_eq_false_iff, decide_eq_false_iff_not,
    beq_eq_false_iff_ne]
  omega

/-- There are no blanks in a number, -/
private theorem isBlank_of_isNumeral {cs : List Char} (h : Text.IsNumeral cs n) :
    ∀ c ∈ cs, Text.isBlank c = false := by
  obtain ⟨ds, hcs, -, hdigits, -⟩ := h
  rintro c hc
  rcases hcs with rfl | rfl
  · exact isBlank_of_isDigit (hdigits c hc)
  · rcases List.mem_cons.mp hc with rfl | hc
    · rfl
    · exact isBlank_of_isDigit (hdigits c hc)

/-- and it ends in a digit. -/
private theorem exists_last_of_isNumeral {cs : List Char} (h : Text.IsNumeral cs n) :
    ∃ front last, cs = front ++ [last] ∧ last.isDigit = true := by
  obtain ⟨ds, hcs, hne, hdigits, -⟩ := h
  obtain ⟨front, last, rfl⟩ := (List.eq_nil_or_concat ds).resolve_left hne
  have hlast : last.isDigit = true := hdigits last (by simp)
  rcases hcs with rfl | rfl
  · exact ⟨front, last, by simp, hlast⟩
  · exact ⟨'+' :: front, last, by simp, hlast⟩

private theorem trim_of_isNumeral {cs : List Char} (h : Text.IsNumeral cs n) :
    Text.trim cs = cs :=
  Text.trim_of_forall (isBlank_of_isNumeral h)

/-- What stands in front of a unit ends in a blank or a digit. -/
private theorem last_of_counted {cs blanks front : List Char} {last : Char}
    (hcs : Text.IsNumeral cs n) (hblanks : ∀ c ∈ blanks, Text.isBlank c = true)
    (h : cs ++ blanks = front ++ [last]) : last.isDigit = true ∨ Text.isBlank last = true := by
  rcases List.eq_nil_or_concat blanks with rfl | ⟨before, blank, rfl⟩
  · obtain ⟨before, digit, rfl, hdigit⟩ := exists_last_of_isNumeral hcs
    rw [List.append_nil] at h
    obtain rfl := List.singleton_inj.mp (List.append_inj_right' h rfl)
    exact Or.inl hdigit
  · rw [List.concat_eq_append, ← List.append_assoc] at h
    obtain rfl := List.singleton_inj.mp (List.append_inj_right' h rfl)
    exact Or.inr (hblanks blank (by simp))

theorem splitScale_of_spelled {text : List Char} (h : Spelled n scale text) :
    ∃ count, splitScale text = (count, scale) ∧ Text.IsNumeral (Text.trim count) n := by
  cases h with
  | bare hcs =>
      obtain ⟨front, last, hlast, hdigit⟩ := exists_last_of_isNumeral hcs
      refine ⟨text, ?_, ?_⟩
      · rw [hlast]
        exact splitScale_of_digit hdigit
      · rwa [trim_of_isNumeral hcs]
  | @unit cs blanks scale hcs hblanks =>
      refine ⟨cs ++ blanks, splitScale_append ?_ scale, ?_⟩
      · intro before hm
        rcases last_of_counted hcs hblanks hm with hdigit | hblank
        · cases hdigit
        · cases hblank
      · rwa [Text.trim_append_of_forall cs hblanks, trim_of_isNumeral hcs]

/-- A text that has been split is a count of the unit, if the rest of it is a number. -/
theorem spelled_of_splitScale {text count : List Char} (htrim : Text.trim text = text)
    (hsplit : splitScale text = (count, scale)) (h : Text.IsNumeral (Text.trim count) n) :
    Spelled n scale text := by
  rcases splitScale_cases hsplit with htext | ⟨rfl, rfl⟩
  · obtain ⟨lead, trail, hlead, htrail, hcount⟩ := Text.exists_trim count
    generalize Text.trim count = cs at h hcount
    subst hcount
    -- The text is trimmed, so no blank is at its beginning.
    have hnone : lead = [] := by
      cases lead with
      | nil => rfl
      | cons c rest =>
          rw [htext] at htrim
          cases (hlead c List.mem_cons_self).symm.trans (Text.isBlank_of_trim_eq_cons htrim)
    rw [htext, hnone, List.nil_append]
    exact .unit scale h htrail
  · rw [htrim] at h
    exact .bare h

/-- What is read is what is spelled, as long as it is in range. -/
theorem parse_eq_ok_iff : parse raw = .ok d ↔
    ∃ n scale, Spelled n scale (Text.trim raw.toList) ∧ n * scale.factor < word64 ∧
      d.nanos = n * scale.nanos := by
  have htrim := Text.trim_trim raw.toList
  obtain ⟨count, scale, hsplit⟩ :
      ∃ count scale, splitScale (Text.trim raw.toList) = (count, scale) := ⟨_, _, rfl⟩
  unfold parse
  simp only [hsplit]
  constructor
  · intro h
    split at h
    · cases h
    · next n hread =>
        obtain ⟨hcount, hn⟩ := Text.readNat_ok_iff.mp hread
        split at h
        · next hspan =>
            cases h
            have hd := Scale.span?_eq_some_iff.mp hspan
            have hfits := (Scale.exists_nanos_iff (Nat.lt_succ_of_le hn)).mp ⟨d, hd⟩
            exact ⟨n, scale, spelled_of_splitScale htrim hsplit hcount, hfits, hd⟩
        · cases h
  · rintro ⟨n, other, hspelled, hfits, hd⟩
    obtain ⟨_, hsame, hcount⟩ := splitScale_of_spelled hspelled
    cases hsplit.symm.trans hsame
    have hn : n ≤ word64 - 1 := Nat.le_sub_one_of_lt (scale.lt_of_factor hfits)
    simp only [Text.readNat_ok_iff.mpr ⟨hcount, hn⟩, Scale.span?_eq_some_iff.mpr hd]

/-- A text is read exactly if it is a number with a unit or without one, blanks at its ends and
before the unit apart, and the number fits the word of its count, in seconds where the unit is
minutes or hours. Then the duration is the number of units that is said, and nothing is cut off.
Any other text is refused. -/
theorem parse_reads_spelled (raw : String) :
    (∀ d, parse raw = .ok d ↔ ∃ n scale, Spelled n scale (Text.trim raw.toList) ∧
      n * scale.factor < word64 ∧ d.nanos = n * scale.nanos) ∧
    ((∃ fault, parse raw = .error fault) ↔
      ∀ n scale, Spelled n scale (Text.trim raw.toList) → word64 ≤ n * scale.factor) := by
  refine ⟨fun d => parse_eq_ok_iff, ?_, ?_⟩
  · rintro ⟨fault, hfault⟩ n scale hspelled
    by_contra hfits
    have hfits := Nat.lt_of_not_le hfits
    obtain ⟨d, hd⟩ := (Scale.exists_nanos_iff (scale.lt_of_factor hfits)).mpr hfits
    have hok := parse_eq_ok_iff.mpr ⟨n, scale, hspelled, hfits, hd⟩
    cases hok.symm.trans hfault
  · intro hlarge
    cases hparse : parse raw with
    | error fault => exact ⟨fault, rfl⟩
    | ok d =>
        obtain ⟨n, scale, hspelled, hfits, -⟩ := parse_eq_ok_iff.mp hparse
        exact absurd (hlarge n scale hspelled) (Nat.not_le_of_lt hfits)

example : parse " +90\u00a0s " = .ok ⟨90 * nanosPerSec, by decide⟩ := by decide

/-! ### What is read -/

/-- What the written form says of a duration is all there is to it: it has whole seconds, or whole
milliseconds that fit a word. -/
def Exact (d : Duration) : Prop :=
  d.subsecNanos = 0 ∨ d.nanos % 1000000 = 0 ∧ d.millis < word64

theorem exact_of_parse (h : parse raw = .ok d) : d.Exact := by
  obtain ⟨n, scale, -, hfits, hnanos⟩ := parse_eq_ok_iff.mp h
  have hsecs (k : Nat) (hk : d.nanos = k * nanosPerSec) : d.Exact := by
    refine Or.inl ?_
    rw [subsecNanos, hk, Nat.mul_mod_left]
  cases scale with
  | millis =>
      have hmillis : d.nanos = n * 1000000 := hnanos
      refine Or.inr ⟨?_, ?_⟩
      · rw [hmillis, Nat.mul_mod_left]
      · rw [millis, hmillis, Nat.mul_div_cancel n (by decide)]
        exact Scale.millis.lt_of_factor hfits
  | secs => exact hsecs n hnanos
  | mins => exact hsecs (n * 60) (by rw [hnanos, Nat.mul_assoc, Scale.nanos])
  | hours => exact hsecs (n * 3600) (by rw [hnanos, Nat.mul_assoc, Scale.nanos])

/-- Only a second is between the longest duration that can be read and the end of the range. -/
theorem Exact.le (h : d.Exact) : d.nanos ≤ (word64 - 1) * nanosPerSec := by
  have hrange := d.nanos_lt
  rcases h with hwhole | ⟨hwhole, hmillis⟩
  · have hlast : d.nanos % nanosPerSec = 0 := hwhole
    unfold word64 nanosPerSec at *
    omega
  · have hlast : d.nanos / 1000000 < word64 := hmillis
    unfold word64 nanosPerSec at *
    omega

/-! ### What is written -/

theorem spelled_written (n : Nat) (scale : Scale) :
    Spelled n scale (Text.trim (String.ofList (Text.digits n) ++ scale.suffix).toList) := by
  have hunit : ∀ c ∈ scale.suffix.toList, Text.isBlank c = false := by
    have hall : scale.suffix.toList.all (!Text.isBlank ·) = true := by
      cases scale <;> decide
    simpa using hall
  have htrim : Text.trim (Text.digits n ++ scale.suffix.toList) =
      Text.digits n ++ scale.suffix.toList := by
    apply Text.trim_of_forall
    intro c hc
    rcases List.mem_append.mp hc with hc | hc
    · exact isBlank_of_isDigit (Text.isDigit_of_mem_digits hc)
    · exact hunit c hc
  rw [String.toList_append, String.toList_ofList, htrim]
  simpa using @Spelled.unit n _ [] scale (Text.isNumeral_digits n) nofun

theorem parse_written (h : d.Exact) : parse d.written = .ok d := by
  unfold written
  split
  · next hwhole =>
      have hsecs : d.secs < word64 := Nat.div_lt_of_lt_mul (by rw [Nat.mul_comm]; exact d.nanos_lt)
      have hnanos : d.nanos = d.secs * nanosPerSec :=
        (Nat.div_mul_cancel (Nat.dvd_of_mod_eq_zero hwhole)).symm
      have hfits : d.secs * Scale.secs.factor < word64 := by
        rwa [Scale.factor, Nat.mul_one]
      exact parse_eq_ok_iff.mpr ⟨d.secs, .secs, spelled_written d.secs .secs, hfits, hnanos⟩
  · next hpart =>
      obtain ⟨hwhole, hmillis⟩ := h.resolve_left hpart
      have hnanos : d.nanos = d.millis * 1000000 :=
        (Nat.div_mul_cancel (Nat.dvd_of_mod_eq_zero hwhole)).symm
      have hfits : d.millis * Scale.millis.factor < word64 := by
        rwa [Scale.factor, Nat.mul_one]
      exact parse_eq_ok_iff.mpr
        ⟨d.millis, .millis, spelled_written d.millis .millis, hfits, hnanos⟩

end WorkloadIdentity.Duration
