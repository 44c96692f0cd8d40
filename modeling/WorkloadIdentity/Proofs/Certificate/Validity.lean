import Mathlib.Data.List.TakeWhile
import WorkloadIdentity.Proofs.Certificate.Expiry

/-!
The points in time that certificates name. A year has four digits at most, and a zone is no more
than a day and two hours away, so whatever can be read as a time of a certificate lies within the
dates that the calendar has, and expiry is exact for every certificate that can be read.
-/

namespace WorkloadIdentity

/-! ### The calendar -/

namespace Calendar

variable {c : Civil} {year month day : Nat}

theorem daysInMonth_le (year month : Nat) : daysInMonth year month ≤ 31 := by
  unfold daysInMonth
  split
  · split <;> omega
  all_goals omega

theorem daysBeforeMonth_le (year month : Nat) :
    daysBeforeMonth year month ≤ 31 * (month - 1) := by
  have hfold (months : List Nat) (days : Nat) :
      months.foldl (fun days m => days + daysInMonth year (m + 1)) days ≤
        days + 31 * months.length := by
    induction months generalizing days with
    | nil => exact Nat.le_refl days
    | cons m months ih =>
        have hmonth := daysInMonth_le year (m + 1)
        have hrest := ih (days + daysInMonth year (m + 1))
        rw [List.foldl_cons, List.length_cons]
        omega
  simpa [daysBeforeMonth] using hfold (List.range (month - 1)) 0

theorem month_le_of_day (hday : 1 ≤ day) (h : day ≤ daysInMonth year month) : month ≤ 12 := by
  unfold daysInMonth at h
  split at h <;> omega

theorem Civil.isValid_iff : c.isValid = true ↔ 1 ≤ c.day ∧ c.day ≤ daysInMonth c.year c.month ∧
    c.hour < 24 ∧ c.minute < 60 ∧ c.second < 60 := by
  simp only [isValid, Bool.and_eq_true, decide_eq_true_eq, and_assoc]

/-- The years before the last one end by the beginning of that one. -/
theorem daysBeforeYear_add_le (h : year < 9999) :
    daysBeforeYear year + 730 ≤ daysBeforeYear 9999 + 365 := by
  unfold daysBeforeYear
  omega

theorem daysBeforeMonth_last : ∀ month ≤ 12, ∀ day ≤ daysInMonth 9999 month, 1 ≤ day →
    daysBeforeMonth 9999 month + day ≤ 365 := by decide

/-- The days from the beginning of the year zero to the end of a date. -/
def Civil.daysThrough (c : Civil) : Nat :=
  daysBeforeYear c.year + daysBeforeMonth c.year c.month + c.day

theorem Civil.daysThrough_add_le (hvalid : c.isValid = true) (hyear : c.year < 9999) :
    c.daysThrough + 358 ≤ daysBeforeYear 9999 + 365 := by
  obtain ⟨hday, hmonth, -⟩ := isValid_iff.mp hvalid
  have htwelve := month_le_of_day hday hmonth
  have hlast := daysBeforeYear_add_le hyear
  have hbefore := daysBeforeMonth_le c.year c.month
  have hlength := daysInMonth_le c.year c.month
  unfold Civil.daysThrough
  omega

theorem Civil.daysThrough_le (hvalid : c.isValid = true) (hyear : c.year ≤ 9999) :
    c.daysThrough ≤ daysBeforeYear 9999 + 365 := by
  rcases Nat.lt_or_eq_of_le hyear with hearly | hlast
  · exact Nat.le_of_add_right_le (daysThrough_add_le hvalid hearly)
  · obtain ⟨hday, hmonth, -⟩ := isValid_iff.mp hvalid
    have htwelve := month_le_of_day hday hmonth
    rw [hlast] at hmonth
    have hdays := daysBeforeMonth_last c.month htwelve c.day hmonth hday
    rw [Civil.daysThrough, hlast]
    omega

/-- There are a hundred days in front of any date, and behind it as many as the calendar has left. -/
theorem Civil.hasDate_add {spare : Nat} {shift : Int} (hvalid : c.isValid = true)
    (hdays : c.daysThrough + spare ≤ daysBeforeYear 9999 + 365)
    (hfirst : -(100 * 86400 * nanosPerSec) ≤ shift)
    (hlast : shift ≤ spare * 86400 * nanosPerSec + 999999999) :
    WallTime.HasDate (c.time + shift) := by
  obtain ⟨-, -, hhour, hminute, hsecond⟩ := isValid_iff.mp hvalid
  have hlatest : WallTime.latest = 253402300799999999999 := by decide
  have hearliest : WallTime.earliest = -377705116800000000000 := by decide
  have hyear : daysBeforeYear 9999 = 3652060 := by decide
  have hbounds (count ofDay : Nat) (hcount : count + spare ≤ 3652060 + 365)
      (hofDay : ofDay < 86400) :
      (-377705116800000000000 : Int) ≤
          (((count : Int) - 1 - (719528 : Nat)) * 86400 + ofDay) * nanosPerSec + shift ∧
        (((count : Int) - 1 - (719528 : Nat)) * 86400 + ofDay) * nanosPerSec + shift ≤
          253402300799999999999 := by
    unfold nanosPerSec at *
    omega
  rw [WallTime.HasDate, hlatest, hearliest]
  rw [hyear] at hdays
  exact hbounds c.daysThrough _ hdays (by omega)

end Calendar

/-! ### Readings -/

namespace Der

variable {α β : Type} {reading : Reading α} {next : α → Reading β} {P : α → Prop} {Q : β → Prop}

/-- Whatever is read has the property. -/
def Gives (reading : Reading α) (P : α → Prop) : Prop :=
  ∀ text a rest, reading.run text = some (a, rest) → P a

theorem gives_pure {a : α} (h : P a) : Gives (pure a) P := by
  rintro text _ _ ⟨⟩
  exact h

theorem gives_bind (hfirst : Gives reading P) (hnext : ∀ a, P a → Gives (next a) Q) :
    Gives (reading >>= next) Q := by
  intro text b rest h
  obtain ⟨⟨a, between⟩, hread, hthen⟩ := Option.bind_eq_some_iff.mp h
  exact hnext a (hfirst text a between hread) between b rest hthen

/-- What is read first does not matter. -/
theorem gives_of_next (hnext : ∀ a, Gives (next a) Q) : Gives (reading >>= next) Q :=
  gives_bind (P := fun _ => True) (fun _ _ _ _ => trivial) fun a _ => hnext a

theorem gives_guard {p : Prop} [Decidable p] : Gives (guard p) fun _ => p := by
  intro text _ _ h
  by_cases hp : p
  · exact hp
  · change (if p then pure () else failure : Reading Unit).run text = _ at h
    rw [if_neg hp] at h
    cases h

theorem gives_ite {p : Prop} [Decidable p] {other : Reading α} (hthen : p → Gives reading P)
    (helse : ¬p → Gives other P) : Gives (if p then reading else other) P := by
  by_cases hp : p
  · rw [if_pos hp]
    exact hthen hp
  · rw [if_neg hp]
    exact helse hp

theorem gives_ofOption {found : Option α} (h : ∀ a, found = some a → P a) :
    Gives (ofOption found) P := by
  intro text a rest hread
  cases found with
  | none => cases hread
  | some a =>
      cases hread
      exact h _ rfl

theorem Element.gives_inside (e : Element) (h : Gives reading P) : Gives (e.inside reading) P := by
  apply gives_ofOption
  intro a hread
  obtain ⟨⟨_, rest⟩, hinner, rfl⟩ := Option.map_eq_some_iff.mp hread
  exact h e.content _ rest hinner

theorem of_whole {text : Bytes} {a : α} (h : Gives reading P)
    (hwhole : whole text reading = some a) : P a := by
  unfold whole at hwhole
  split at hwhole
  · next hread =>
      cases hwhole
      exact h _ _ _ hread
  · cases hwhole

end Der

/-! ### Times -/

namespace Certificate

open Der

theorem gives_twoDigits : Gives twoDigits (· ≤ 99) := by
  unfold twoDigits
  refine gives_of_next fun high => gives_of_next fun low => gives_bind gives_guard ?_
  rintro - ⟨-, hhigh, -, hlow⟩
  apply gives_pure
  have hhigh : high.toNat ≤ 57 := hhigh
  have hlow : low.toNat ≤ 57 := hlow
  omega

theorem gives_civil (year : Nat) :
    Gives (civil year) fun date => date.isValid = true ∧ date.year = year := by
  unfold civil
  iterate 5 refine gives_of_next fun _ => ?_
  refine gives_ite (fun _ => ?_) fun _ => ?_
  all_goals
    refine gives_of_next fun _ => gives_bind gives_guard fun _ hvalid => ?_
    exact gives_pure ⟨hvalid, rfl⟩

/-- A zone is less than 26 hours away. -/
theorem gives_zone : Gives zone fun ahead => -1560 < ahead ∧ ahead < 1560 := by
  unfold zone
  refine gives_of_next fun mark => gives_ite (fun _ => ?_) fun _ => ?_
  · exact gives_pure (by decide)
  · refine gives_of_next fun _ => gives_of_next fun hours => gives_of_next fun minutes => ?_
    refine gives_bind gives_guard ?_
    rintro - ⟨hhours, hminutes⟩
    apply gives_pure
    split <;> omega

theorem hasDate_of_shortTime? {text : Bytes} {time : WallTime} (h : shortTime? text = some time) :
    time.HasDate := by
  refine of_whole ?_ h
  refine gives_bind gives_twoDigits fun year hyear => ?_
  refine gives_bind (gives_civil _) fun date ⟨hvalid, hdate⟩ => ?_
  refine gives_bind gives_zone fun ahead hahead => gives_pure ?_
  have hfull : fullYear year ≤ 2099 := by
    unfold fullYear
    split <;> omega
  have hdays := Calendar.Civil.daysThrough_add_le hvalid (by omega)
  rw [Int.sub_eq_add_neg]
  apply Calendar.Civil.hasDate_add hvalid hdays
  all_goals
    unfold nanosPerSec
    omega

/-- Three digits, or fewer with zeros in the place of the others, make less than a thousand. -/
theorem fraction_lt {digits : Bytes} (hlength : digits.length ≤ 3) (h : ∀ b ∈ digits, b ≤ 0x39) :
    digits.foldl (fun n b => n * 10 + (b.toNat - 0x30)) 0 * Nat.pow 10 (3 - digits.length) <
      1000 := by
  have hdigit : ∀ b ∈ digits, b.toNat - 0x30 ≤ 9 := by
    intro b hb
    have hle : b.toNat ≤ 57 := h b hb
    omega
  match digits with
  | [] => decide
  | [a] =>
      have ha := hdigit a (by simp)
      show (0 * 10 + (a.toNat - 0x30)) * 100 < 1000
      omega
  | [a, b] =>
      have ha := hdigit a (by simp)
      have hb := hdigit b (by simp)
      show ((0 * 10 + (a.toNat - 0x30)) * 10 + (b.toNat - 0x30)) * 10 < 1000
      omega
  | [a, b, c] =>
      have ha := hdigit a (by simp)
      have hb := hdigit b (by simp)
      have hc := hdigit c (by simp)
      show (((0 * 10 + (a.toNat - 0x30)) * 10 + (b.toNat - 0x30)) * 10 + (c.toNat - 0x30)) * 1 <
        1000
      omega
  | _ :: _ :: _ :: _ :: _ =>
      simp only [List.length_cons] at hlength
      omega

theorem gives_fraction : Gives fraction (· < 1000) := by
  unfold fraction
  refine gives_of_next fun text => ?_
  refine gives_bind gives_guard fun _ hlength => ?_
  refine gives_of_next fun _ => gives_of_next fun _ => gives_pure (fraction_lt hlength ?_)
  intro b hb
  have hdigit := List.mem_takeWhile_imp hb
  simp only [Bool.and_eq_true, decide_eq_true_eq] at hdigit
  exact hdigit.2

theorem hasDate_of_longTime? {text : Bytes} {time : WallTime} (h : longTime? text = some time) :
    time.HasDate := by
  refine of_whole ?_ h
  refine gives_bind gives_twoDigits fun century hcentury => ?_
  refine gives_bind gives_twoDigits fun year hyear => ?_
  refine gives_bind (gives_civil _) fun date ⟨hvalid, hdate⟩ => ?_
  have hdays := Calendar.Civil.daysThrough_le hvalid (by omega)
  have hnear (millis : Nat) (hmillis : millis < 1000) :
      WallTime.HasDate (date.time + millis * 1000000) := by
    apply @Calendar.Civil.hasDate_add _ 0 _ hvalid hdays
    all_goals
      unfold nanosPerSec
      omega
  have hrest (millis : Reading Nat) (hmillis : Gives millis (· < 1000)) :
      Gives (millis >>= fun millis => pure (date.time + millis * 1000000)) WallTime.HasDate :=
    gives_bind hmillis fun millis hmillis => gives_pure (hnear millis hmillis)
  refine gives_of_next fun mark => gives_ite (fun _ => ?_) fun _ => ?_
  · refine hrest _ (gives_bind gives_fraction fun millis hmillis => ?_)
    exact gives_of_next fun _ => gives_of_next fun _ => gives_pure hmillis
  · exact hrest _ (gives_of_next fun _ => gives_pure (by decide))

theorem gives_time : Gives time WallTime.HasDate := by
  unfold time
  refine gives_of_next fun e => gives_ite (fun _ => ?_) fun _ => gives_ite (fun _ => ?_) fun _ => ?_
  · exact gives_ofOption fun _ => hasDate_of_shortTime?
  · exact gives_ofOption fun _ => hasDate_of_longTime?
  · rintro _ _ _ ⟨⟩

/-! ### Certificates -/

theorem gives_validity :
    Gives validity fun times => times.1.HasDate ∧ times.2.HasDate := by
  unfold validity
  refine gives_of_next fun e => e.gives_inside ?_
  refine gives_bind gives_time fun notBefore hbefore => ?_
  exact gives_bind gives_time fun notAfter hafter => gives_pure ⟨hbefore, hafter⟩

theorem gives_signedPart : Gives signedPart fun s => s.notBefore.HasDate ∧ s.notAfter.HasDate := by
  unfold signedPart
  refine gives_of_next fun e => e.gives_inside ?_
  iterate 4 refine gives_of_next fun _ => ?_
  refine gives_bind gives_validity fun times htimes => ?_
  iterate 4 refine gives_of_next fun _ => ?_
  exact gives_of_next fun _ => gives_pure htimes

theorem gives_certificate :
    Gives certificate fun s => s.notBefore.HasDate ∧ s.notAfter.HasDate := by
  unfold certificate
  refine gives_of_next fun e => e.gives_inside ?_
  refine gives_bind gives_signedPart fun contents htimes => ?_
  exact gives_of_next fun _ => gives_of_next fun _ => gives_pure htimes

end Certificate

namespace ClientCertificate

variable {c : ClientCertificate} {text : Bytes} {now : WallTime}

/-- Whatever is read as a certificate begins and ends at points in time that have dates. -/
theorem hasDate_of_ofText (h : ofText text = .ok c) : c.notBefore.HasDate ∧ c.notAfter.HasDate := by
  unfold ofText at h
  cases hchain : Certificate.chain text with
  | error fault =>
      rw [hchain] at h
      cases h
  | ok chain =>
      rw [hchain] at h
      cases chain with
      | nil => cases h
      | cons first others =>
          cases hread : Certificate.certificate.run first with
          | none =>
              simp only [bind, Except.bind, hread] at h
              cases h
          | some found =>
              simp only [bind, Except.bind, hread] at h
              cases h
              exact Certificate.gives_certificate first _ _ hread

/-- So nothing is cut off where it matters when the expiry of such a certificate is told. -/
theorem isExpiredAt_of_ofText (h : ofText text = .ok c) (hnow : now.HasDate) (buffer : Duration) :
    c.isExpiredAt now buffer = true ↔ c.notAfter ≤ now + buffer.nanos :=
  isExpiredAt_eq_true_iff hnow.1 (hasDate_of_ofText h).2.2 buffer

end ClientCertificate

end WorkloadIdentity
