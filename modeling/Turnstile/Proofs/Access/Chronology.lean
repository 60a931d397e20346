import Turnstile.Proofs.Access.Window
set_option autoImplicit false

/-! The order of time as policies see it. Of an instant they are told the nanoseconds since 1970, or
the nearest bound where 64 bits do not hold them. The second in which they run out is told as its
start, however late in it the instant is. So the time of evaluations follows the clock, except that
it runs back within that second, where a credential that has expired can be accepted again. -/

namespace Turnstile

namespace Instant

/-! ### Order of instants -/

/-- By seconds first, and by nanoseconds within one second. -/
instance : LE Instant where
  le earlier later :=
    earlier.seconds < later.seconds ∨
      earlier.seconds = later.seconds ∧ earlier.nanos ≤ later.nanos

theorem le_iff_sinceEpoch_le {earlier later : Instant} (noLeap : earlier.nanos < billion)
    (noLeapLater : later.nanos < billion) :
    earlier ≤ later ↔ earlier.sinceEpoch ≤ later.sinceEpoch := by
  show _ ∨ _ ↔ _
  unfold sinceEpoch billion at *
  omega

/-! ### Nanoseconds in 64 bits -/

theorem clamp64_mono {low high : Int} (le : low ≤ high) : clamp64 low ≤ clamp64 high := by
  unfold clamp64
  omega

/-- The start of the second fits into 64 bits as nanoseconds, and the instant does not. -/
def Overruns (instant : Instant) : Prop :=
  instant.seconds * billion ≤ 0x7fffffffffffffff ∧ 0x7fffffffffffffff < instant.sinceEpoch

instance (instant : Instant) : Decidable instant.Overruns := inferInstanceAs (Decidable (_ ∧ _))

/-- Outside leap seconds, there is one second in which nanoseconds run out. -/
theorem overruns_iff {instant : Instant} (noLeap : instant.nanos < billion) :
    instant.Overruns ↔ instant.seconds = 9223372036 ∧ 854775807 < instant.nanos := by
  unfold Overruns sinceEpoch billion at *
  omega

theorem unixNanos_of_overruns {instant : Instant} (overruns : instant.Overruns) :
    instant.unixNanos = instant.seconds * billion := by
  have beyond := overruns.2
  unfold sinceEpoch at beyond
  have positive : (0 : Int) ≤ instant.seconds * billion := by
    have valid := instant.valid
    unfold isValid billion at *
    simp only [Bool.and_eq_true, Bool.or_eq_true, decide_eq_true_eq] at valid
    omega
  have lost : clamp64 (instant.seconds * billion + instant.nanos) ≠
      instant.seconds * billion + instant.nanos := by
    unfold clamp64
    omega
  have kept : clamp64 (instant.seconds * billion) = instant.seconds * billion := by
    have fits := overruns.1
    unfold clamp64
    omega
  rw [unixNanos, if_neg lost, kept]

theorem unixNanos_of_not_overruns {instant : Instant} (fits : ¬ instant.Overruns) :
    instant.unixNanos = clamp64 instant.sinceEpoch := by
  unfold Overruns sinceEpoch at *
  unfold unixNanos clamp64
  simp only
  split <;> omega

/-- What policies are told of an instant: its nanoseconds where 64 bits hold them, else the nearest
bound; but the start of its second where only that still fits. -/
structure Told (instant : Instant) (nanos : Int) : Prop where
  exact : -0x8000000000000000 ≤ instant.sinceEpoch → instant.sinceEpoch ≤ 0x7fffffffffffffff →
    nanos = instant.sinceEpoch
  before : instant.sinceEpoch < -0x8000000000000000 → nanos = -0x8000000000000000
  after : 0x7fffffffffffffff < instant.sinceEpoch → ¬ instant.Overruns →
    nanos = 0x7fffffffffffffff
  overrun : instant.Overruns → nanos = instant.seconds * billion

theorem told_unixNanos (instant : Instant) : instant.Told instant.unixNanos where
  exact low high := unixNanos_eq_sinceEpoch low high
  before low := by
    have fits : ¬ instant.Overruns := fun overruns => by
      have beyond := overruns.2
      omega
    rw [unixNanos_of_not_overruns fits]
    unfold clamp64
    omega
  after beyond fits := by
    rw [unixNanos_of_not_overruns fits]
    unfold clamp64
    omega
  overrun overruns := unixNanos_of_overruns overruns

section Order

variable {earlier later : Instant}

theorem unixNanos_le_clamp64 (instant : Instant) :
    instant.unixNanos ≤ clamp64 instant.sinceEpoch := by
  by_cases overruns : instant.Overruns
  · rw [unixNanos_of_overruns overruns]
    obtain ⟨fits, beyond⟩ := overruns
    unfold clamp64
    omega
  · exact Int.le_of_eq (unixNanos_of_not_overruns overruns)

/-- Up to an instant at which nanoseconds have not run out in the middle of its second, what is told
keeps the order. -/
theorem unixNanos_mono (ordered : earlier.sinceEpoch ≤ later.sinceEpoch)
    (fits : ¬ later.Overruns) : earlier.unixNanos ≤ later.unixNanos := by
  rw [unixNanos_of_not_overruns fits]
  exact Int.le_trans (unixNanos_le_clamp64 earlier) (clamp64_mono ordered)

/-- What is told runs back exactly within one second, from where it is exact and after the start of
the second to where nanoseconds have run out. -/
theorem unixNanos_lt_iff (noLeap : earlier.nanos < billion) (noLeapLater : later.nanos < billion)
    (ordered : earlier.sinceEpoch ≤ later.sinceEpoch) :
    later.unixNanos < earlier.unixNanos ↔
      later.Overruns ∧ earlier.seconds = later.seconds ∧ 0 < earlier.nanos ∧
        ¬ earlier.Overruns := by
  by_cases overruns : later.Overruns
  · rw [unixNanos_of_overruns overruns]
    obtain ⟨second, _⟩ := (overruns_iff noLeapLater).mp overruns
    by_cases alsoOverruns : earlier.Overruns
    · obtain ⟨same, _⟩ := (overruns_iff noLeap).mp alsoOverruns
      rw [unixNanos_of_overruns alsoOverruns, same, second]
      simp [alsoOverruns]
    · simp only [overruns, alsoOverruns, not_false_iff, and_true, true_and]
      rw [unixNanos_of_not_overruns alsoOverruns, second]
      rw [overruns_iff noLeap] at alsoOverruns
      unfold clamp64 sinceEpoch billion at *
      omega
  · have kept := unixNanos_mono ordered overruns
    simp only [overruns, false_and, iff_false]
    omega

end Order

end Instant

namespace Policy

open Instant (Told)

/-! ### Evaluations -/

/-- The time in what a policy is told. -/
def Input.time? (input : Input) : Option Int :=
  match Json.lookup? "Time" input with
  | some (.number (.int nanos)) => some nanos
  | _ => none

/-- Every evaluation at an instant decides on an input with these nanoseconds as its time. -/
def Handed (now : Instant) (nanos : Int) : Prop :=
  ∀ (engine : Engine) (context : Context) (publicPem token issuer : String), ∃ input : Input,
    engine.evaluateAuthentication context now publicPem token issuer =
      engine.authentication.decide input context ∧ input.time? = some nanos

theorem handed_unixNanos (now : Instant) : Handed now now.unixNanos :=
  fun _ _ _ _ _ => ⟨_, rfl, rfl⟩

theorem secondsAt_mono {earlier later : Instant} (kept : earlier.unixNanos ≤ later.unixNanos) :
    (secondsAt earlier).value ≤ (secondsAt later).value :=
  secondsOf_mono (Binary64.value_ofInt_mono kept)

/-- Outside leap seconds, an evaluation is handed the time of its instant, and a later evaluation is
handed no earlier time and judges at no earlier time, except in the one second in which nanoseconds
run out: from an instant in it that is told exactly, to one that is not, the time runs back to the
start of the second. -/
theorem evaluation_time_runs_back_iff {earlier later : Instant} (noLeap : earlier.nanos < billion)
    (noLeapLater : later.nanos < billion) (ordered : earlier ≤ later) :
    Handed earlier earlier.unixNanos ∧ Handed later later.unixNanos ∧
      Told earlier earlier.unixNanos ∧ Told later later.unixNanos ∧
      (later.unixNanos < earlier.unixNanos ↔
        later.Overruns ∧ earlier.seconds = later.seconds ∧ 0 < earlier.nanos ∧
          ¬ earlier.Overruns) ∧
      (earlier.unixNanos ≤ later.unixNanos →
        (secondsAt earlier).value ≤ (secondsAt later).value) := by
  rw [Instant.le_iff_sinceEpoch_le noLeap noLeapLater] at ordered
  exact ⟨handed_unixNanos earlier, handed_unixNanos later, earlier.told_unixNanos,
    later.told_unixNanos, Instant.unixNanos_lt_iff noLeap noLeapLater ordered, secondsAt_mono⟩

/-- The last instant whose nanoseconds fit into 64 bits. -/
def lastExact : Instant := ⟨9223372036, 854775807, by decide⟩

def firstOverrun : Instant := ⟨9223372036, 854775808, by decide⟩

/-- Claims that end in the second in which nanoseconds run out. -/
def lastingClaims : Claims := { exampleClaims with expires := 9223372036 }

/-- A nanosecond after the last exact instant, the time is told as almost a second earlier. A
credential that has expired at that instant is denied there, and accepted after it. -/
theorem evaluation_time_runs_back_example :
    lastExact ≤ firstOverrun ∧ firstOverrun.unixNanos < lastExact.unixNanos ∧
      ∃ token, exampleStore.issueClaims "main" lastingClaims = .ok token ∧
        (AccessControl.mk ⟨exampleStore, 0, none⟩ .embedded).authenticate ⟨.live, .live, 0⟩
          lastExact token = .error .denied ∧
        (AccessControl.mk ⟨exampleStore, 0, none⟩ .embedded).authenticate ⟨.live, .live, 0⟩
          firstOverrun token = .ok lastingClaims := by
  have ordered : lastExact ≤ firstOverrun := Or.inr ⟨rfl, by decide⟩
  obtain ⟨_, _, _, _, runsBack, _⟩ :=
    evaluation_time_runs_back_iff (by decide) (by decide) ordered
  have back : firstOverrun.unixNanos < lastExact.unixNanos := runsBack.mpr (by decide)
  obtain ⟨token, issued⟩ := KeyStore.exists_token
    (by decide +kernel : (exampleStore.issueClaims "main" lastingClaims).isOk = true)
  obtain ⟨pair, _, _, vouched, only⟩ := Credential.vouched_of_issueClaims issued
  have judged : ∀ now : Instant, now.seconds = 9223372036 →
      (AccessControl.mk ⟨exampleStore, 0, none⟩ .embedded).authenticate ⟨.live, .live, 0⟩ now
          token =
        if lastingClaims.issuer ∈ Embedded.trustedIssuers ∧
            insideWindow lastingClaims.notBefore.toInt lastingClaims.expires.toInt
              (secondsAt now) = true then .ok lastingClaims
        else .error .denied := by
    intro now second
    have validated : (Validator.mk exampleStore 0 none).validate (Int64.ofInt now.seconds) token =
        .ok lastingClaims := by
      rw [vouched.validate_eq, second]
      decide
    exact AccessControl.authenticateAt_of_vouched vouched only validated now ⟨rfl, rfl⟩
  refine ⟨ordered, back, token, issued, ?_, ?_⟩
  · rw [judged _ rfl]
    exact if_neg (by decide +kernel)
  · rw [judged _ rfl]
    exact if_pos (by decide +kernel)

end Policy

end Turnstile
