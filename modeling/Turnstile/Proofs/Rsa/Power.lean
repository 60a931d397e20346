import Mathlib.FieldTheory.Finite.Basic
import Mathlib.NumberTheory.LucasPrimality
import Turnstile.Proofs.Rsa.Signature
set_option autoImplicit false

/-! Powers modulo a number. The powers that are taken digit by digit are those of arithmetic, so
Fermat's little theorem says which exponents change nothing modulo a prime, and powers tell a prime
by themselves where the number before it is easy to take apart. -/

namespace Turnstile.Rsa

/-! ### Digits of the exponent -/

private theorem powerOfDigits_binaryDigits (modulus : Nat) {places value : Nat}
    (fits : value < 2 ^ places) (base result : Nat) :
    powerOfDigits modulus (binaryDigits places value) base result ≡
      result * base ^ value [MOD modulus] := by
  induction places generalizing value base result with
  | zero =>
      obtain rfl : value = 0 := by simpa using fits
      rw [pow_zero, mul_one]
      exact Nat.mod_modEq _ _
  | succ places ih =>
      have half : value / 2 < 2 ^ places := by
        rw [Nat.pow_succ] at fits
        omega
      have squares : (base * base % modulus) ^ (value / 2) ≡
          base ^ (2 * (value / 2)) [MOD modulus] := by
        rw [pow_mul, pow_two]
        exact (Nat.mod_modEq _ _).pow _
      rw [binaryDigits, powerOfDigits]
      refine (ih half _ _).trans ?_
      by_cases odd : value % 2 = 1
      · have digits : value = 1 + 2 * (value / 2) := by omega
        have step : result * base % modulus * base ^ (2 * (value / 2)) ≡
            result * base ^ value [MOD modulus] := by
          conv_rhs => rw [digits, pow_add, pow_one, ← mul_assoc]
          exact (Nat.mod_modEq _ _).mul_right _
        rw [if_pos (by simpa using odd)]
        exact (squares.mul_left _).trans step
      · have digits : 2 * (value / 2) = value := by omega
        rw [digits] at squares
        rw [if_neg (by simpa using odd)]
        exact squares.mul_left _

theorem power_modEq (modulus base exponent : Nat) :
    power modulus base exponent ≡ base ^ exponent [MOD modulus] := by
  have steps := powerOfDigits_binaryDigits modulus (Bytes.lt_pow_bitSize exponent) base 1
  rwa [one_mul] at steps

/-! ### Primes -/

/-- Modulo a prime, an exponent that is one modulo the prime less one changes nothing. -/
theorem pow_modEq_self {prime exponent : Nat} (isPrime : prime.Prime) (positive : 0 < exponent)
    (unit : exponent ≡ 1 [MOD prime - 1]) (value : Nat) :
    value ^ exponent ≡ value [MOD prime] := by
  have : Fact prime.Prime := ⟨isPrime⟩
  obtain ⟨rounds, rest⟩ := (Nat.modEq_iff_dvd' positive).mp unit.symm
  obtain rfl : exponent = (prime - 1) * rounds + 1 := by omega
  rw [← ZMod.natCast_eq_natCast_iff, Nat.cast_pow, pow_succ, pow_mul]
  by_cases zero : (value : ZMod prime) = 0
  · rw [zero, mul_zero]
  · rw [ZMod.pow_card_sub_one_eq_one zero, one_pow, one_mul]

private theorem pow_eq_one_iff {modulus : Nat} (large : 1 < modulus) (base exponent : Nat) :
    (base : ZMod modulus) ^ exponent = 1 ↔ power modulus base exponent = 1 := by
  have raised := power_modEq modulus base exponent
  have below := power_lt (Nat.zero_lt_of_lt large) base exponent
  rw [← Nat.cast_pow, ← Nat.cast_one (R := ZMod modulus), ZMod.natCast_eq_natCast_iff]
  constructor
  · intro one
    exact Nat.ModEq.eq_of_lt_of_lt (raised.trans one) below large
  · intro one
    rw [one] at raised
    exact raised.symm

/-- A number that is one more than a prime times a power of two is prime, if some base has the
order that only a prime leaves room for. -/
theorem prime_of_powers {factor twos : Nat} (base : Nat) (isPrime : factor.Prime)
    (whole : power (factor * 2 ^ twos + 1) base (factor * 2 ^ twos) = 1)
    (half : power (factor * 2 ^ twos + 1) base (factor * 2 ^ twos / 2) ≠ 1)
    (part : power (factor * 2 ^ twos + 1) base (factor * 2 ^ twos / factor) ≠ 1) :
    (factor * 2 ^ twos + 1).Prime := by
  have large : 1 < factor * 2 ^ twos + 1 :=
    Nat.succ_lt_succ (Nat.mul_pos isPrime.pos (Nat.pow_pos (by decide)))
  refine lucas_primality _ (base : ZMod (factor * 2 ^ twos + 1))
    ((pow_eq_one_iff large _ _).mpr whole) ?_
  intro divisor divisorPrime divides
  rw [Nat.add_sub_cancel] at divides ⊢
  rw [ne_eq, pow_eq_one_iff large]
  rcases divisorPrime.dvd_mul.mp divides with inFactor | inTwos
  · rwa [(Nat.prime_dvd_prime_iff_eq divisorPrime isPrime).mp inFactor]
  · rwa [(Nat.prime_dvd_prime_iff_eq divisorPrime Nat.prime_two).mp
      (divisorPrime.dvd_of_dvd_pow inTwos)]

end Turnstile.Rsa
