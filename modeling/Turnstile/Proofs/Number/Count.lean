import Turnstile.Number.Count
set_option autoImplicit false

/-! What a count is written as. Reading from the left stops early, but a number that exceeds the
bound on the way never comes back under it, so that exactly the numerals of numbers within the
bound are read. -/

namespace Turnstile.Count

/-- A text that writes a number: one digit or more, perhaps behind a plus sign. -/
def Writes (text : List Char) (count : Nat) : Prop :=
  ∃ digits, (text = digits ∨ text = '+' :: digits) ∧ digits ≠ [] ∧
    (∀ digit ∈ digits, digit.isDigit = true) ∧ Nat.ofDigitChars 10 digits 0 = count

theorem digit?_eq (char : Char) :
    digit? char = if char.isDigit then some (char.toNat - '0'.toNat) else none := rfl

theorem le_ofDigitChars (value : Nat) (digits : List Char) :
    value ≤ Nat.ofDigitChars 10 digits value := by
  induction digits generalizing value with
  | nil => exact Nat.le_refl value
  | cons digit rest ih =>
      rw [Nat.ofDigitChars_cons]
      have later := ih (10 * value + (digit.toNat - '0'.toNat))
      omega

theorem readDigits_eq_ok_iff {bound value : Nat} (within : value ≤ bound) (text : List Char)
    (count : Nat) :
    readDigits bound value text = .ok count ↔ (∀ digit ∈ text, digit.isDigit = true) ∧
      Nat.ofDigitChars 10 text value = count ∧ count ≤ bound := by
  induction text generalizing value with
  | nil =>
      rw [readDigits, Nat.ofDigitChars_nil, Except.ok.injEq]
      constructor
      · rintro rfl
        exact ⟨by simp, rfl, within⟩
      · exact fun facts => facts.2.1
  | cons char rest ih =>
      rw [readDigits, digit?_eq, List.forall_mem_cons, Nat.ofDigitChars_cons, Nat.mul_comm 10 value]
      cases digit : char.isDigit with
      | false => simp
      | true =>
          rw [if_pos rfl]
          dsimp only
          by_cases fits : value * 10 + (char.toNat - '0'.toNat) ≤ bound
          · rw [if_pos fits, ih fits]
            simp
          · rw [if_neg fits]
            refine iff_of_false nofun ?_
            rintro ⟨_, rfl, small⟩
            exact fits (Nat.le_trans (le_ofDigitChars _ rest) small)

theorem eq_or_eq_cons_withoutSign (text : List Char) :
    text = withoutSign text ∨ text = '+' :: withoutSign text := by
  unfold withoutSign
  split
  · exact Or.inr rfl
  · exact Or.inl rfl

theorem withoutSign_of_digits {digits : List Char}
    (allDigits : ∀ digit ∈ digits, digit.isDigit = true) : withoutSign digits = digits := by
  unfold withoutSign
  split
  · exact absurd (allDigits '+' List.mem_cons_self) (by decide)
  · rfl

/-- Exactly the numbers within the bound are read, from what writes them. -/
theorem read_eq_ok_iff (bound : Nat) (text : List Char) (count : Nat) :
    read bound text = .ok count ↔ Writes text count ∧ count ≤ bound := by
  rw [read]
  constructor
  · intro success
    by_cases filled : withoutSign text = []
    · simp [filled] at success
    · rw [if_neg (by simpa using filled), readDigits_eq_ok_iff (Nat.zero_le bound)] at success
      obtain ⟨allDigits, value, small⟩ := success
      exact ⟨⟨withoutSign text, eq_or_eq_cons_withoutSign text, filled, allDigits, value⟩, small⟩
  · rintro ⟨⟨digits, written, filled, allDigits, value⟩, small⟩
    have bare : withoutSign text = digits := by
      rcases written with rfl | rfl
      · exact withoutSign_of_digits allDigits
      · rfl
    rw [bare, if_neg (by simpa using filled), readDigits_eq_ok_iff (Nat.zero_le bound)]
    exact ⟨allDigits, value, small⟩

end Turnstile.Count
