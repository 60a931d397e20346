import Turnstile.Number.Binary64
import Turnstile.Proofs.Bytes
set_option autoImplicit false

/-! Rounding does not pass a binary number. What lies on one side of a number of 53 binary digits
is rounded to this number or stays on its side, so comparisons with such numbers survive any
rounding. -/

namespace Turnstile.Binary64

/-! ### Quotients -/

theorem roundQuotient_le {numerator denominator limit : Nat} (positive : 0 < denominator)
    (below : numerator ≤ limit * denominator) : roundQuotient numerator denominator ≤ limit := by
  have division := Nat.div_add_mod numerator denominator
  have least : numerator / denominator ≤ limit :=
    Nat.div_le_of_le_mul (Nat.mul_comm limit denominator ▸ below)
  by_cases reached : numerator / denominator = limit
  · -- nothing is left over at the limit itself
    rw [reached, Nat.mul_comm] at division
    have remainder : numerator % denominator = 0 := by omega
    simp only [roundQuotient, remainder, Nat.mul_zero, if_pos positive]
    exact least
  · unfold roundQuotient
    simp only
    repeat' split
    all_goals omega

theorem le_roundQuotient {numerator denominator limit : Nat} (positive : 0 < denominator)
    (above : limit * denominator ≤ numerator) : limit ≤ roundQuotient numerator denominator := by
  have least : limit ≤ numerator / denominator := (Nat.le_div_iff_mul_le positive).mpr above
  unfold roundQuotient
  simp only
  repeat' split
  all_goals omega

theorem roundQuotient_mono {low high denominator : Nat} (positive : 0 < denominator)
    (le : low ≤ high) : roundQuotient low denominator ≤ roundQuotient high denominator := by
  have lowDivision := Nat.div_add_mod low denominator
  have highDivision := Nat.div_add_mod high denominator
  rcases Nat.lt_or_eq_of_le (Nat.div_le_div_right (c := denominator) le) with less | same
  · -- between different quotients there is a whole number that neither rounding passes
    have below : low ≤ (low / denominator + 1) * denominator := by
      have remainder := Nat.mod_lt low positive
      rw [Nat.add_mul, Nat.one_mul, Nat.mul_comm]
      omega
    have above : (low / denominator + 1) * denominator ≤ high :=
      Nat.le_trans (Nat.mul_le_mul_right denominator less) (Nat.div_mul_le_self high denominator)
    exact Nat.le_trans (roundQuotient_le positive below) (le_roundQuotient positive above)
  · rw [same] at lowDivision
    unfold roundQuotient
    simp only [same]
    repeat' split
    all_goals omega

/-! ### Magnitudes -/

/-- Magnitudes with at most 53 binary digits from their first to their last. -/
def Representable (units : Nat) : Prop :=
  ∃ significand exponent, significand ≤ 2 ^ 53 ∧ units = significand * 2 ^ exponent

theorem representable_of_le {units : Nat} (small : units ≤ 2 ^ 53) : Representable units :=
  ⟨units, 0, small, by omega⟩

theorem Representable.mul_pow {units : Nat} (representable : Representable units)
    (exponent : Nat) : Representable (units * 2 ^ exponent) := by
  obtain ⟨significand, other, small, rfl⟩ := representable
  exact ⟨significand, other + exponent, small, by rw [Nat.mul_assoc, ← Nat.pow_add]⟩

/-- The places that a shorter number loses in rounding are zeros of a representable one. -/
theorem Representable.dvd {limit quotient : Nat} (representable : Representable limit)
    (shorter : Bytes.bitSize quotient ≤ Bytes.bitSize limit) :
    2 ^ (Bytes.bitSize quotient - 53) ∣ limit := by
  obtain ⟨significand, exponent, small, rfl⟩ := representable
  rcases Nat.lt_or_eq_of_le small with less | rfl
  · have bits : Bytes.bitSize (significand * 2 ^ exponent) ≤ 53 + exponent := by
      apply Bytes.bitSize_le
      rw [Nat.pow_add]
      exact Nat.mul_lt_mul_of_pos_right less (Nat.two_pow_pos exponent)
    exact Nat.dvd_trans (Nat.pow_dvd_pow 2 (by omega)) (Nat.dvd_mul_left _ significand)
  · have bits : Bytes.bitSize (2 ^ 53 * 2 ^ exponent) ≤ 53 + exponent + 1 := by
      apply Bytes.bitSize_le
      rw [← Nat.pow_add]
      exact Nat.pow_lt_pow_right (by decide) (by omega)
    rw [← Nat.pow_add]
    exact Nat.pow_dvd_pow 2 (by omega)

theorem roundUnits_le {numerator denominator limit : Nat} (positive : 0 < denominator)
    (representable : Representable limit) (below : numerator ≤ limit * denominator) :
    roundUnits numerator denominator ≤ limit := by
  have least : numerator / denominator ≤ limit :=
    Nat.div_le_of_le_mul (Nat.mul_comm limit denominator ▸ below)
  have step := Nat.two_pow_pos (Bytes.bitSize (numerator / denominator) - 53)
  obtain ⟨count, rfl⟩ := representable.dvd (Bytes.bitSize_mono least)
  rw [roundUnits, Nat.mul_comm]
  apply Nat.mul_le_mul_left
  apply roundQuotient_le (Nat.mul_pos positive step)
  calc numerator ≤ _ * count * denominator := below
    _ = count * (denominator * _) := by
      rw [Nat.mul_comm _ count, Nat.mul_assoc, Nat.mul_comm _ denominator]

private theorem step_le_roundUnits {numerator denominator limit : Nat} (positive : 0 < denominator)
    (multiple : 2 ^ (Bytes.bitSize (numerator / denominator) - 53) ∣ limit)
    (above : limit * denominator ≤ numerator) : limit ≤ roundUnits numerator denominator := by
  have step := Nat.two_pow_pos (Bytes.bitSize (numerator / denominator) - 53)
  obtain ⟨count, rfl⟩ := multiple
  rw [roundUnits, Nat.mul_comm]
  apply Nat.mul_le_mul_right
  apply le_roundQuotient (Nat.mul_pos positive step)
  calc count * (denominator * _) = _ * count * denominator := by
        rw [Nat.mul_comm _ count, Nat.mul_assoc, Nat.mul_comm _ denominator]
    _ ≤ numerator := above

theorem le_roundUnits {numerator denominator limit : Nat} (positive : 0 < denominator)
    (representable : Representable limit) (above : limit * denominator ≤ numerator) :
    limit ≤ roundUnits numerator denominator := by
  have least : limit ≤ numerator / denominator := (Nat.le_div_iff_mul_le positive).mpr above
  by_cases shorter : Bytes.bitSize (numerator / denominator) ≤ Bytes.bitSize limit
  · exact step_le_roundUnits positive (representable.dvd shorter) above
  · -- the power of two that the quotient begins with lies between the limit and the quotient
    have filled : 2 ^ (Bytes.bitSize (numerator / denominator) - 1) ≤ numerator / denominator :=
      Bytes.pow_le_of_lt_bitSize (by omega)
    have power := step_le_roundUnits positive
      (Nat.pow_dvd_pow 2 (by omega) : 2 ^ (Bytes.bitSize (numerator / denominator) - 53) ∣
        2 ^ (Bytes.bitSize (numerator / denominator) - 1))
      ((Nat.le_div_iff_mul_le positive).mp filled)
    have far : limit < 2 ^ (Bytes.bitSize (numerator / denominator) - 1) :=
      Nat.lt_of_lt_of_le (Bytes.lt_pow_bitSize limit)
        (Nat.pow_le_pow_right (by decide) (by omega))
    omega

theorem representable_pow (exponent : Nat) : Representable (2 ^ exponent) :=
  ⟨1, exponent, by decide, (Nat.one_mul _).symm⟩

theorem roundUnits_mono {low high denominator : Nat} (positive : 0 < denominator)
    (le : low ≤ high) : roundUnits low denominator ≤ roundUnits high denominator := by
  have quotients : low / denominator ≤ high / denominator := Nat.div_le_div_right le
  have sizes := Bytes.bitSize_mono quotients
  by_cases same : Bytes.bitSize (low / denominator) - 53 = Bytes.bitSize (high / denominator) - 53
  · rw [roundUnits, roundUnits, same]
    exact Nat.mul_le_mul_right _
      (roundQuotient_mono (Nat.mul_pos positive (Nat.two_pow_pos _)) le)
  · -- the power of two that the longer quotient begins with lies between the two
    have shorter : low / denominator < 2 ^ (Bytes.bitSize (high / denominator) - 1) :=
      Nat.lt_of_lt_of_le (Bytes.lt_pow_bitSize _) (Nat.pow_le_pow_right (by decide) (by omega))
    have begins : 2 ^ (Bytes.bitSize (high / denominator) - 1) ≤ high / denominator :=
      Bytes.pow_le_of_lt_bitSize (by omega)
    exact Nat.le_trans
      (roundUnits_le positive (representable_pow _)
        (Nat.le_of_lt ((Nat.div_lt_iff_lt_mul positive).mp shorter)))
      (le_roundUnits positive (representable_pow _) ((Nat.le_div_iff_mul_le positive).mp begins))

/-! ### Signed numbers -/

theorem value_mono {change : Nat → Nat} (zero : change 0 = 0)
    (mono : ∀ low high, low ≤ high → change low ≤ change high) {left right : Binary64}
    (le : left.value ≤ right.value) :
    (Binary64.mk left.negative (change left.units)).value ≤
      (Binary64.mk right.negative (change right.units)).value := by
  obtain ⟨leftNegative, leftUnits⟩ := left
  obtain ⟨rightNegative, rightUnits⟩ := right
  cases leftNegative with
  | false =>
      cases rightNegative with
      | false =>
          have magnitudes : (leftUnits : Int) ≤ rightUnits := le
          exact Int.ofNat_le.mpr (mono _ _ (Int.ofNat_le.mp magnitudes))
      | true =>
          have magnitudes : (leftUnits : Int) ≤ -(rightUnits : Int) := le
          obtain ⟨rfl, rfl⟩ : leftUnits = 0 ∧ rightUnits = 0 := by omega
          show ((change 0 : Nat) : Int) ≤ -((change 0 : Nat) : Int)
          rw [zero]
          decide
  | true =>
      cases rightNegative with
      | false =>
          show -((change leftUnits : Nat) : Int) ≤ ((change rightUnits : Nat) : Int)
          omega
      | true =>
          have magnitudes : -(leftUnits : Int) ≤ -(rightUnits : Int) := le
          have changed := mono rightUnits leftUnits (by omega)
          show -((change leftUnits : Nat) : Int) ≤ -((change rightUnits : Nat) : Int)
          omega

theorem value_round_le {negative : Bool} {numerator denominator : Nat} {limit : Int}
    (positive : 0 < denominator) (representable : Representable limit.natAbs)
    (below : (Binary64.mk negative numerator).value ≤ limit * denominator) :
    (Binary64.mk negative (roundUnits numerator denominator)).value ≤ limit := by
  cases negative with
  | false =>
      have magnitude : (numerator : Int) ≤ limit * denominator := below
      have sign : 0 ≤ limit := by
        rcases Int.lt_or_le limit 0 with low | high
        · have product := Int.mul_neg_of_neg_of_pos low (Int.natCast_pos.mpr positive)
          omega
        · exact high
      obtain ⟨units, rfl⟩ := Int.eq_ofNat_of_zero_le sign
      have rounded := roundUnits_le positive representable (Int.ofNat_le.mp magnitude)
      exact Int.ofNat_le.mpr rounded
  | true =>
      have magnitude : -(numerator : Int) ≤ limit * denominator := below
      show -(roundUnits numerator denominator : Int) ≤ limit
      rcases Int.lt_or_le limit 0 with low | high
      · have product : (limit.natAbs : Int) * denominator ≤ numerator := by
          have opposite : (limit.natAbs : Int) = -limit := by omega
          rw [opposite, Int.neg_mul]
          omega
        have rounded := le_roundUnits positive representable (Int.ofNat_le.mp product)
        omega
      · omega

theorem value_neg (negative : Bool) (units : Nat) :
    (Binary64.mk (!negative) units).value = -(Binary64.mk negative units).value := by
  cases negative <;> simp [value]

theorem le_value_round {negative : Bool} {numerator denominator : Nat} {limit : Int}
    (positive : 0 < denominator) (representable : Representable limit.natAbs)
    (above : limit * denominator ≤ (Binary64.mk negative numerator).value) :
    limit ≤ (Binary64.mk negative (roundUnits numerator denominator)).value := by
  have below : (Binary64.mk (!negative) numerator).value ≤ -limit * denominator := by
    rw [value_neg, Int.neg_mul]
    omega
  have mirrored := value_round_le positive (by rw [Int.natAbs_neg]; exact representable) below
  rw [value_neg] at mirrored
  omega

/-! ### Whole numbers -/

theorem unitsPerOne_eq_pow : ∃ exponent, unitsPerOne = 2 ^ exponent := ⟨1074, by decide +kernel⟩

theorem unitsPerOne_pos : 0 < unitsPerOne := by
  obtain ⟨exponent, power⟩ := unitsPerOne_eq_pow
  rw [power]
  exact Nat.two_pow_pos exponent

private theorem value_whole (value : Int) (unit : Nat) :
    (Binary64.mk (decide (value < 0)) (value.natAbs * unit)).value = value * unit := by
  by_cases negative : value < 0
  · have magnitude : ((value.natAbs * unit : Nat) : Int) = -(value * unit) := by
      rw [Int.natCast_mul, ← Int.neg_mul]
      congr 1
      omega
    rw [Binary64.value, decide_eq_true negative, if_pos rfl, magnitude, Int.neg_neg]
  · have magnitude : ((value.natAbs * unit : Nat) : Int) = value * unit := by
      rw [Int.natCast_mul]
      congr 1
      omega
    rw [Binary64.value, decide_eq_false negative, if_neg Bool.false_ne_true, magnitude]

theorem Representable.mul_unitsPerOne {count : Nat} (representable : Representable count) :
    Representable (count * unitsPerOne) := by
  obtain ⟨exponent, power⟩ := unitsPerOne_eq_pow
  rw [power]
  exact representable.mul_pow exponent

theorem representable_units {limit : Int} (representable : Representable limit.natAbs) :
    Representable (limit * unitsPerOne).natAbs := by
  rw [Int.natAbs_mul, Int.natAbs_natCast]
  exact representable.mul_unitsPerOne

theorem value_ofInt_le {value limit : Int} (representable : Representable limit.natAbs)
    (below : value ≤ limit) : (ofInt value).value ≤ limit * unitsPerOne := by
  apply value_round_le Nat.one_pos (representable_units representable)
  rw [value_whole, Int.natCast_one, Int.mul_one]
  exact Int.mul_le_mul_of_nonneg_right below (Int.natCast_nonneg _)

theorem le_value_ofInt {value limit : Int} (representable : Representable limit.natAbs)
    (above : limit ≤ value) : limit * unitsPerOne ≤ (ofInt value).value := by
  apply le_value_round Nat.one_pos (representable_units representable)
  rw [value_whole, Int.natCast_one, Int.mul_one]
  exact Int.mul_le_mul_of_nonneg_right above (Int.natCast_nonneg _)

theorem value_ofInt_mono {low high : Int} (le : low ≤ high) :
    (ofInt low).value ≤ (ofInt high).value := by
  have whole : (Binary64.mk (decide (low < 0)) (low.natAbs * unitsPerOne)).value ≤
      (Binary64.mk (decide (high < 0)) (high.natAbs * unitsPerOne)).value := by
    rw [value_whole, value_whole]
    exact Int.mul_le_mul_of_nonneg_right le (Int.natCast_nonneg _)
  have zero : roundUnits 0 1 = 0 := by decide
  exact value_mono zero (fun _ _ => roundUnits_mono Nat.one_pos) whole

section Comparison

variable {value limit : Int}

/-- Rounding a whole number does not carry it past another one of 53 digits. -/
theorem value_ofInt_le_iff (small : limit.natAbs < 2 ^ 53) :
    (ofInt value).value ≤ limit * unitsPerOne ↔ value ≤ limit := by
  constructor
  · intro rounded
    rcases Int.lt_or_le limit value with above | below
    · have next : (limit + 1) * (unitsPerOne : Int) ≤ (ofInt value).value :=
        le_value_ofInt (representable_of_le (by omega)) (by omega)
      have unit := Int.natCast_pos.mpr unitsPerOne_pos
      rw [Int.add_mul] at next
      omega
    · exact below
  · exact value_ofInt_le (representable_of_le (by omega))

theorem le_value_ofInt_iff (small : limit.natAbs < 2 ^ 53) :
    limit * unitsPerOne ≤ (ofInt value).value ↔ limit ≤ value := by
  constructor
  · intro rounded
    rcases Int.lt_or_le value limit with below | above
    · have next : (ofInt value).value ≤ (limit - 1) * unitsPerOne :=
        value_ofInt_le (representable_of_le (by omega)) (by omega)
      have unit := Int.natCast_pos.mpr unitsPerOne_pos
      rw [Int.sub_mul] at next
      omega
    · exact above
  · exact le_value_ofInt (representable_of_le (by omega))

end Comparison

/-! ### Quotients of numbers -/

private theorem value_mul (negative : Bool) (units factor : Nat) :
    (Binary64.mk negative (units * factor)).value =
      (Binary64.mk negative units).value * factor := by
  cases negative with
  | false => exact Int.natCast_mul units factor
  | true =>
      have magnitude := Int.natCast_mul units factor
      rw [value, value, if_pos rfl, if_pos rfl, magnitude, Int.neg_mul]

section Division

variable {left right quotient : Binary64} {limit : Int}

private theorem eq_round_of_div? (divides : left.div? right = some quotient)
    (unsigned : right.negative = false) :
    quotient = ⟨left.negative, roundUnits (left.units * unitsPerOne) right.units⟩ := by
  unfold div? finite? at divides
  split at divides
  · cases divides
    rw [unsigned, Bool.bne_false]
  · cases divides

theorem exists_div? {bound : Nat} (positive : 0 < right.units) (representable : Representable bound)
    (finite : bound < overflow) (below : left.units * unitsPerOne ≤ bound * right.units) :
    ∃ quotient, left.div? right = some quotient := by
  have rounded := roundUnits_le positive representable below
  unfold div? finite?
  rw [if_pos (Nat.lt_of_le_of_lt rounded finite)]
  exact ⟨_, rfl⟩

theorem value_div_le (divides : left.div? right = some quotient)
    (unsigned : right.negative = false) (positive : 0 < right.units)
    (representable : Representable limit.natAbs)
    (below : left.value * unitsPerOne ≤ limit * right.units) : quotient.value ≤ limit := by
  rw [eq_round_of_div? divides unsigned]
  apply value_round_le positive representable
  rw [value_mul]
  exact below

theorem le_value_div (divides : left.div? right = some quotient)
    (unsigned : right.negative = false) (positive : 0 < right.units)
    (representable : Representable limit.natAbs)
    (above : limit * right.units ≤ left.value * unitsPerOne) : limit ≤ quotient.value := by
  rw [eq_round_of_div? divides unsigned]
  apply le_value_round positive representable
  rw [value_mul]
  exact above

end Division

end Turnstile.Binary64
