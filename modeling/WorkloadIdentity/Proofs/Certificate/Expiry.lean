import WorkloadIdentity.Certificate.Client

/-!
When a certificate counts as expired. The end of the buffer is computed with two cuts: a buffer that
is too long for the span of a point in time is taken for the longest span, and a sum that has no date
any more for the last one that has. Neither of them shows: the longest span leads past the last date
from wherever it begins, and no certificate ends later than that. So the answer is that of the exact
sum, and a certificate that is expired once stays so.
-/

namespace WorkloadIdentity

namespace WallTime

/-- The first point in time that has a date, which is the beginning of the year -9999. The calendar
is the same again after 400 years, so that is 25 times as long before the first year. -/
def earliest : WallTime :=
  Calendar.Civil.time ⟨1, 1, 1, 0, 0, 0⟩ -
    25 * Calendar.daysBeforeYear 400 * 86400 * nanosPerSec

def HasDate (t : WallTime) : Prop := earliest ≤ t ∧ t ≤ latest

variable {t : WallTime} {d : Duration}

/-- The longest span is no shorter than all the time that has a date. -/
theorem latest_le_longestSpan : latest ≤ earliest + longestSpan := by decide

/-- A cut of a summand shows only where the sum is cut anyway. -/
private theorem min_add_min {top start span n : Int} (h : top ≤ start + span) :
    min top (start + min n span) = min top (start + n) := by
  omega

theorem after_eq (h : earliest ≤ t) (d : Duration) : t.after d = min latest (t + d.nanos) :=
  min_add_min (Int.le_trans latest_le_longestSpan (Int.add_le_add_right h longestSpan))

end WallTime

namespace ClientCertificate

variable {c : ClientCertificate} {now : WallTime} {buffer : Duration}

theorem isExpiredAt_eq_true_iff (hnow : WallTime.earliest ≤ now)
    (hend : c.notAfter ≤ WallTime.latest) (buffer : Duration) :
    c.isExpiredAt now buffer = true ↔ c.notAfter ≤ now + buffer.nanos := by
  rw [isExpiredAt, decide_eq_true_iff, WallTime.after_eq hnow, Int.le_min, and_iff_right hend]

/-- At any point in time that has a date, a certificate that ends at one is expired exactly if its
end is not after the end of the buffer, with nothing rounded and nothing cut off. So it is still
expired later on and with a longer buffer. -/
theorem expiry_is_exact (c : ClientCertificate) (now : WallTime) (buffer : Duration)
    (hnow : now.HasDate) (hend : c.notAfter.HasDate) :
    (c.isExpiredAt now buffer = true ↔ c.notAfter ≤ now + buffer.nanos) ∧
    ∀ (later : WallTime) (longer : Duration), later.HasDate → now ≤ later → buffer ≤ longer →
      c.isExpiredAt now buffer = true → c.isExpiredAt later longer = true := by
  refine ⟨isExpiredAt_eq_true_iff hnow.1 hend.2 buffer, ?_⟩
  intro later longer hlater hle hbuffer hexpired
  rw [isExpiredAt_eq_true_iff hnow.1 hend.2] at hexpired
  rw [isExpiredAt_eq_true_iff hlater.1 hend.2]
  have hnanos : (buffer.nanos : Int) ≤ longer.nanos := Int.ofNat_le.mpr hbuffer
  exact Int.le_trans hexpired (Int.add_le_add hle hnanos)

/-- A certificate that ends at the last point in time that has a date. -/
def everlasting : ClientCertificate where
  text := ""
  commonName := none
  uris := []
  notBefore := 0
  notAfter := WallTime.latest

/-- Two minutes before its end, it is expired with a buffer of two minutes or with the longest one,
whose end has no date, and not with one that is a second shorter. -/
theorem expiry_is_exact_at_latest :
    WallTime.HasDate (WallTime.latest - 120 * nanosPerSec) ∧ everlasting.notAfter.HasDate ∧
    everlasting.isExpiredAt (WallTime.latest - 120 * nanosPerSec) (.ofSecs 120) = true ∧
    everlasting.isExpiredAt (WallTime.latest - 120 * nanosPerSec) .max = true ∧
    everlasting.isExpiredAt (WallTime.latest - 120 * nanosPerSec) (.ofSecs 119) = false := by
  have hnow : WallTime.HasDate (WallTime.latest - 120 * nanosPerSec) := ⟨by decide, by decide⟩
  have hend : everlasting.notAfter.HasDate := ⟨by decide, by decide⟩
  obtain ⟨htwo, hlater⟩ := expiry_is_exact everlasting _ (.ofSecs 120) hnow hend
  have hshorter := (expiry_is_exact everlasting _ (.ofSecs 119) hnow hend).1
  have hexpired := htwo.mpr (by decide)
  refine ⟨hnow, hend, hexpired, hlater _ _ hnow (Int.le_refl _) (by decide) hexpired, ?_⟩
  rw [Bool.eq_false_iff, ne_eq, hshorter]
  decide

end ClientCertificate

end WorkloadIdentity
