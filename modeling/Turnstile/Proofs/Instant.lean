import Turnstile.Instant
set_option autoImplicit false

/-! Instants as numbers of nanoseconds. Outside leap seconds an instant is the number of its
nanoseconds, its second is the whole part of them, and a span later is their sum. -/

namespace Turnstile

namespace Duration

theorem ofNanoseconds?_eq_none_iff {nanoseconds : Nat} :
    ofNanoseconds? nanoseconds = none ↔ 0x7fffffffffffffff * 1000000 < nanoseconds := by
  have size : (nanoseconds : Int).natAbs = nanoseconds := Int.natAbs_natCast nanoseconds
  unfold ofNanoseconds?
  split <;> simp <;> omega

theorem nanoseconds_of_ofNanoseconds? {nanoseconds : Int} {span : Duration}
    (made : ofNanoseconds? nanoseconds = some span) : span.nanoseconds = nanoseconds := by
  unfold ofNanoseconds? at made
  split at made
  · cases made
    rfl
  · cases made

end Duration

namespace Instant

/-- Nanoseconds since the start of 1970, however many they are. -/
def sinceEpoch (instant : Instant) : Int := instant.seconds * billion + instant.nanos

theorem unixNanos_eq_sinceEpoch {instant : Instant}
    (low : -0x8000000000000000 ≤ instant.sinceEpoch)
    (high : instant.sinceEpoch ≤ 0x7fffffffffffffff) : instant.unixNanos = instant.sinceEpoch := by
  have fits : clamp64 instant.sinceEpoch = instant.sinceEpoch := by
    unfold clamp64
    omega
  exact if_pos fits

theorem natAbs_unixNanos_le (instant : Instant) :
    instant.unixNanos.natAbs ≤ 0x8000000000000000 := by
  unfold unixNanos clamp64
  simp only
  split <;> omega

theorem toInt_seconds (instant : Instant) :
    (Int64.ofInt instant.seconds).toInt = instant.seconds := by
  have valid := instant.valid
  unfold isValid firstSecond lastSecond at valid
  simp only [Bool.and_eq_true, decide_eq_true_eq] at valid
  exact Int64.toInt_ofInt_of_le (by omega) (by omega)

theorem eq_of_ofParts? {seconds : Int} {nanos : Nat} {instant : Instant}
    (made : ofParts? seconds nanos = some instant) :
    instant.seconds = seconds ∧ instant.nanos = nanos := by
  unfold ofParts? at made
  split at made
  · cases made
    exact ⟨rfl, rfl⟩
  · cases made

/-- Carrying keeps the number of nanoseconds, and makes the second its whole part. -/
theorem carry?_eq_ofUnixNanos? {seconds nanos : Int} (low : 0 ≤ nanos)
    (high : nanos < 2 * billion) : carry? seconds nanos = ofUnixNanos? (seconds * billion + nanos) := by
  unfold carry? ofUnixNanos?
  rw [if_neg (by omega)]
  unfold billion at *
  split <;> congr 1 <;> omega

theorem add?_eq_ofUnixNanos? {instant : Instant} {span : Duration}
    (noLeap : instant.nanos < billion) (forward : 0 ≤ span.nanoseconds) :
    instant.add? span = ofUnixNanos? (instant.sinceEpoch + span.nanoseconds) := by
  have seconds : span.seconds = span.nanoseconds / billion := Int.tdiv_eq_ediv_of_nonneg forward
  have fraction : span.fraction = span.nanoseconds % billion := Int.tmod_eq_emod_of_nonneg forward
  unfold billion at noLeap
  unfold add?
  simp only [seconds, fraction]
  rw [if_neg (by unfold billion; omega),
    carry?_eq_ofUnixNanos? (by unfold billion; omega) (by unfold billion; omega), sinceEpoch]
  congr 1
  unfold billion
  omega

theorem seconds_of_add? {instant later : Instant} {span : Duration}
    (noLeap : instant.nanos < billion) (forward : 0 ≤ span.nanoseconds)
    (made : instant.add? span = some later) :
    later.seconds = (instant.sinceEpoch + span.nanoseconds) / billion := by
  rw [add?_eq_ofUnixNanos? noLeap forward] at made
  exact (eq_of_ofParts? made).1

theorem seconds_eq_sinceEpoch {instant : Instant} (noLeap : instant.nanos < billion) :
    instant.seconds = instant.sinceEpoch / billion := by
  unfold sinceEpoch billion at *
  omega

theorem ofUnixNanos?_eq_none_iff {nanoseconds : Int} (low : firstSecond * billion ≤ nanoseconds) :
    ofUnixNanos? nanoseconds = none ↔ (lastSecond + 1) * billion ≤ nanoseconds := by
  have left : ofUnixNanos? nanoseconds = none ↔
      ¬ isValid (nanoseconds / billion) (nanoseconds % billion).toNat = true := by
    unfold ofUnixNanos? ofParts?
    split <;> simp [*]
  rw [left]
  unfold isValid firstSecond lastSecond billion at *
  simp only [Bool.and_eq_true, Bool.or_eq_true, decide_eq_true_eq]
  omega

/-- Outside leap seconds, no instant is a span later exactly if the sum is past the last second of
the calendar. -/
theorem add?_eq_none_iff {instant : Instant} {span : Duration} (noLeap : instant.nanos < billion)
    (forward : 0 ≤ span.nanoseconds) :
    instant.add? span = none ↔
      (lastSecond + 1) * billion ≤ instant.sinceEpoch + span.nanoseconds := by
  have valid := instant.valid
  unfold isValid at valid
  simp only [Bool.and_eq_true, decide_eq_true_eq] at valid
  have low : firstSecond * billion ≤ instant.sinceEpoch + span.nanoseconds := by
    have start := valid.1.1
    unfold sinceEpoch firstSecond billion at *
    omega
  rw [add?_eq_ofUnixNanos? noLeap forward, ofUnixNanos?_eq_none_iff low]

end Instant

end Turnstile
