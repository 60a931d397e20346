set_option autoImplicit false

/-! Points in time and spans between them. An instant counts seconds from the
start of 1970 and nanoseconds within the second; the last second of a minute may
hold a second billion of them, a leap second. The calendar bounds instants, and
every operation that would leave it has no result. -/

namespace Turnstile

/-- Nanoseconds in a second. -/
def billion : Nat := 1000000000

structure Duration where
  nanoseconds : Int
  bounded : nanoseconds.natAbs ≤ 0x7fffffffffffffff * 1000000
  deriving DecidableEq

namespace Duration

def ofNanoseconds? (nanoseconds : Int) : Option Duration :=
  if bounded : nanoseconds.natAbs ≤ 0x7fffffffffffffff * 1000000 then some ⟨nanoseconds, bounded⟩
  else none

def seconds (duration : Duration) : Int := duration.nanoseconds.tdiv billion

def fraction (duration : Duration) : Int := duration.nanoseconds.tmod billion

end Duration

def Instant.firstSecond : Int := -8334601228800

def Instant.lastSecond : Int := 8210266876799

def Instant.isValid (seconds : Int) (nanos : Nat) : Bool :=
  decide (Instant.firstSecond ≤ seconds) && decide (seconds ≤ Instant.lastSecond) &&
    (decide (nanos < billion) ||
      (decide (nanos < 2 * billion) && decide (seconds % 60 = 59)))

structure Instant where
  seconds : Int
  nanos : Nat
  valid : Instant.isValid seconds nanos = true
  deriving DecidableEq

namespace Instant

def ofParts? (seconds : Int) (nanos : Nat) : Option Instant :=
  if valid : isValid seconds nanos = true then some ⟨seconds, nanos, valid⟩ else none

def epoch : Instant := ⟨0, 0, by decide⟩

/-- The start of a second, or of 1970 when the second is not in the calendar. -/
def ofSeconds (seconds : Int) : Instant := (ofParts? seconds 0).getD epoch

def ofUnixNanos? (nanoseconds : Int) : Option Instant :=
  ofParts? (nanoseconds / billion) (nanoseconds % billion).toNat

/-- The point a number of seconds and nanoseconds later, where the nanoseconds
before and after may need to carry one second. -/
def carry? (seconds nanos : Int) : Option Instant :=
  if nanos < 0 then ofParts? (seconds - 1) (nanos + billion).toNat
  else if billion ≤ nanos then ofParts? (seconds + 1) (nanos - billion).toNat
  else ofParts? seconds nanos.toNat

/-- The point a span later. Within a leap second a small span stays there; a span
that leaves it forward counts from the second before its second billion, and
one that leaves it backward from the second after. -/
def add? (instant : Instant) (span : Duration) : Option Instant :=
  let nanos : Int := instant.nanos
  let later := nanos + span.fraction
  if (billion : Int) ≤ nanos then
    if 0 < span.seconds ∨ 2 * (billion : Int) ≤ later then
      carry? (instant.seconds + span.seconds) (later - billion)
    else if span.seconds < 0 then
      carry? (instant.seconds + 1 + span.seconds) (later - billion)
    else ofParts? instant.seconds later.toNat
  else carry? (instant.seconds + span.seconds) later

def clamp64 (value : Int) : Int := max (-0x8000000000000000) (min value 0x7fffffffffffffff)

/-- Nanoseconds since the start of 1970 in 64 bits. Where they do not fit, the
nanoseconds of the whole seconds, or the nearest bound. -/
def unixNanos (instant : Instant) : Int :=
  let exact := instant.seconds * billion + instant.nanos
  if clamp64 exact = exact then exact else clamp64 (instant.seconds * billion)

end Instant

end Turnstile
