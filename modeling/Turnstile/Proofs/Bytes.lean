import Mathlib.Algebra.Group.Nat.Defs
import Mathlib.Data.List.Induction
import Turnstile.Bytes
set_option autoImplicit false

/-! Sizes of numbers. A number fits the binary digits and the octets that it is counted to have,
its shortest octets begin with one that is not zero, and octets make up no more than their places
have room for. -/

namespace Turnstile.Bytes

theorem lt_pow_bitSize (value : Nat) : value < 2 ^ bitSize value := by
  unfold bitSize
  by_cases zero : value = 0
  · rw [if_pos zero, zero]
    decide
  · rw [if_neg zero]
    exact Nat.lt_log2_self

theorem lt_pow_octetSize (value : Nat) : value < 256 ^ octetSize value := by
  have bits : 256 ^ octetSize value = 2 ^ (8 * octetSize value) := by
    rw [Nat.pow_mul]
  rw [bits]
  refine Nat.lt_of_lt_of_le (lt_pow_bitSize value) (Nat.pow_le_pow_right (by decide) ?_)
  unfold octetSize
  omega

theorem pow_le_of_lt_bitSize {value bits : Nat} (larger : bits < bitSize value) :
    2 ^ bits ≤ value := by
  unfold bitSize at larger
  by_cases zero : value = 0
  · rw [if_pos zero] at larger
    omega
  · rw [if_neg zero] at larger
    exact Nat.le_trans (Nat.pow_le_pow_right (by decide) (by omega)) (Nat.log2_self_le zero)

theorem bitSize_le {value bits : Nat} (small : value < 2 ^ bits) : bitSize value ≤ bits := by
  by_cases larger : bits < bitSize value
  · have least := pow_le_of_lt_bitSize larger
    omega
  · omega

theorem bitSize_mono {low high : Nat} (le : low ≤ high) : bitSize low ≤ bitSize high :=
  bitSize_le (Nat.lt_of_le_of_lt le (lt_pow_bitSize high))

theorem octetSize_le {value octets : Nat} (small : value < 2 ^ (8 * octets)) :
    octetSize value ≤ octets := by
  have bits := bitSize_le small
  unfold octetSize
  omega

theorem octetSize_eq {value octets : Nat} (low : 256 ^ octets ≤ value)
    (high : value < 256 ^ (octets + 1)) : octetSize value = octets + 1 := by
  apply Nat.le_antisymm
  · apply octetSize_le
    rw [Nat.pow_mul]
    exact high
  · have size := lt_pow_octetSize value
    rcases Nat.lt_or_ge octets (octetSize value) with larger | smaller
    · exact larger
    · have power := Nat.pow_le_pow_right (by decide : 0 < 256) smaller
      omega

theorem toNat_ofNatMinimal (value : Nat) : toNat (ofNatMinimal value) = value := by
  rw [ofNatMinimal, toNat_ofNat]
  exact Nat.mod_eq_of_lt (lt_pow_octetSize value)

theorem length_ofNatMinimal (value : Nat) : (ofNatMinimal value).length = octetSize value :=
  ofNat_length _ _

theorem toNat_zero_cons (bytes : Bytes) : toNat (0 :: bytes) = toNat bytes := by
  simp [toNat]

theorem toNat_lt (bytes : Bytes) : toNat bytes < 256 ^ bytes.length := by
  induction bytes using List.reverseRecOn with
  | nil => exact Nat.one_pos
  | append_singleton bytes last ih =>
      have small := last.toNat_lt
      rw [toNat_append_singleton, List.length_append, List.length_singleton, Nat.pow_succ]
      omega

theorem pow_le_of_octetSize {value size : Nat} (octets : octetSize value = size + 1) :
    256 ^ size ≤ value := by
  have bits : 256 ^ size = 2 ^ (8 * size) := by
    rw [Nat.pow_mul]
  rw [bits]
  apply pow_le_of_lt_bitSize
  unfold octetSize at octets
  omega

theorem ofNat_succ (size value : Nat) :
    ofNat (size + 1) value = UInt8.ofNat (value / 256 ^ size) :: ofNat size value := by
  induction size generalizing value with
  | zero => simp [ofNat]
  | succ size ih =>
      have highest : value / 256 / 256 ^ size = value / 256 ^ (size + 1) := by
        rw [Nat.div_div_eq_div_mul, Nat.pow_succ, Nat.mul_comm]
      rw [ofNat, ih, highest, List.cons_append]
      rfl

theorem ofNatMinimal_head {value : Nat} (positive : 0 < value) :
    ∃ first rest, ofNatMinimal value = first :: rest ∧ 0 < first.toNat := by
  obtain ⟨size, octets⟩ : ∃ size, octetSize value = size + 1 := by
    refine ⟨octetSize value - 1, ?_⟩
    have filled : bitSize value ≠ 0 := by
      intro empty
      have small := lt_pow_bitSize value
      rw [empty] at small
      omega
    unfold octetSize
    omega
  have high := lt_pow_octetSize value
  have low := pow_le_of_octetSize octets
  refine ⟨UInt8.ofNat (value / 256 ^ size), ofNat size value, ?_, ?_⟩
  · rw [ofNatMinimal, octets, ofNat_succ]
  · have least : 1 ≤ value / 256 ^ size :=
      (Nat.one_le_div_iff (Nat.pow_pos (by decide))).mpr low
    have most : value / 256 ^ size < 256 := by
      rw [octets, Nat.pow_succ'] at high
      exact (Nat.div_lt_iff_lt_mul (Nat.pow_pos (by decide))).mpr high
    rw [UInt8.toNat_ofNat', Nat.mod_eq_of_lt most]
    exact least

end Turnstile.Bytes
