import Turnstile.Text.Utf8
set_option autoImplicit false

/-! The octets of single characters. Those of seven bits are their own octets, and no octet of
another character looks like one of them. -/

namespace Turnstile.Utf8

theorem encodeChars_append (first second : List Char) :
    encodeChars (first ++ second) = encodeChars first ++ encodeChars second :=
  List.flatMap_append

theorem encodeChars_cons (char : Char) (rest : List Char) :
    encodeChars (char :: rest) = String.utf8EncodeChar char ++ encodeChars rest :=
  List.flatMap_cons

theorem encodeChar_of_small {char : Char} (small : char.toNat < 0x80) :
    String.utf8EncodeChar char = [UInt8.ofNat char.toNat] := by
  have point : char.val.toNat = char.toNat := rfl
  unfold String.utf8EncodeChar
  simp only [point]
  rw [if_pos (by omega)]

theorem encodeChars_of_small {text : List Char} (small : ∀ char ∈ text, char.toNat < 0x80) :
    encodeChars text = text.map fun char => UInt8.ofNat char.toNat := by
  induction text with
  | nil => rfl
  | cons char rest ih =>
      rw [encodeChars_cons, encodeChar_of_small (small char List.mem_cons_self),
        ih fun other member => small other (List.mem_cons_of_mem _ member)]
      rfl

theorem encodeChar_of_large {char : Char} (large : 0x80 ≤ char.toNat) {octet : UInt8}
    (member : octet ∈ String.utf8EncodeChar char) : 0x80 ≤ octet.toNat := by
  have point : char.val.toNat = char.toNat := rfl
  unfold String.utf8EncodeChar at member
  simp only [point] at member
  rw [if_neg (by omega)] at member
  split at member
  · simp only [List.mem_cons, List.not_mem_nil, or_false] at member
    rcases member with rfl | rfl
    · rw [toNat_ofNat_octet (by omega)]; omega
    · rw [toNat_ofNat_octet (by omega)]; omega
  · split at member
    · simp only [List.mem_cons, List.not_mem_nil, or_false] at member
      rcases member with rfl | rfl | rfl
      · rw [toNat_ofNat_octet (by omega)]; omega
      · rw [toNat_ofNat_octet (by omega)]; omega
      · rw [toNat_ofNat_octet (by omega)]; omega
    · simp only [List.mem_cons, List.not_mem_nil, or_false] at member
      rcases member with rfl | rfl | rfl | rfl
      · rw [toNat_ofNat_octet (by omega)]; omega
      · rw [toNat_ofNat_octet (by omega)]; omega
      · rw [toNat_ofNat_octet (by omega)]; omega
      · rw [toNat_ofNat_octet (by omega)]; omega

end Turnstile.Utf8
