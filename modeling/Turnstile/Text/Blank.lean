set_option autoImplicit false

/-! Blank characters and trimming. The blanks are the characters with the
Unicode property White_Space; the zero-width characters are none of them.
Trimming takes blanks off both ends and touches nothing inside. -/

namespace Turnstile.Text

def isBlank (char : Char) : Bool :=
  let point := char.toNat
  (0x09 ≤ point && point ≤ 0x0d) || point == 0x20 || point == 0x85 || point == 0xa0 ||
    point == 0x1680 || (0x2000 ≤ point && point ≤ 0x200a) || point == 0x2028 ||
    point == 0x2029 || point == 0x202f || point == 0x205f || point == 0x3000

def trimStart : List Char → List Char
  | [] => []
  | char :: rest => if isBlank char then trimStart rest else char :: rest

def trimEnd : List Char → List Char
  | [] => []
  | char :: rest =>
      match trimEnd rest with
      | [] => if isBlank char then [] else [char]
      | kept => char :: kept

def trimChars (text : List Char) : List Char := trimEnd (trimStart text)

def trim (text : String) : String := String.ofList (trimChars text.toList)

theorem trimStart_of_not_blank {char : Char} (rest : List Char) (visible : isBlank char = false) :
    trimStart (char :: rest) = char :: rest := by
  simp [trimStart, visible]

theorem trimStart_append_of_blank (blanks rest : List Char)
    (allBlank : ∀ char ∈ blanks, isBlank char = true) :
    trimStart (blanks ++ rest) = trimStart rest := by
  induction blanks with
  | nil => rfl
  | cons char blanks inductionHypothesis =>
      have blank := allBlank char (by simp)
      simp only [List.cons_append, trimStart, blank, if_true]
      exact inductionHypothesis fun other member => allBlank other (by simp [member])

theorem trimEnd_eq_nil_of_blank (blanks : List Char)
    (allBlank : ∀ char ∈ blanks, isBlank char = true) : trimEnd blanks = [] := by
  induction blanks with
  | nil => rfl
  | cons char blanks inductionHypothesis =>
      have rest := inductionHypothesis fun other member => allBlank other (by simp [member])
      simp [trimEnd, rest, allBlank char (by simp)]

theorem trimEnd_append_of_blank (text blanks : List Char)
    (allBlank : ∀ char ∈ blanks, isBlank char = true) :
    trimEnd (text ++ blanks) = trimEnd text := by
  induction text with
  | nil => exact trimEnd_eq_nil_of_blank blanks allBlank
  | cons char rest inductionHypothesis =>
      simp only [List.cons_append, trimEnd, inductionHypothesis]

theorem trimEnd_append_of_not_blank (text : List Char) {last : Char}
    (visible : isBlank last = false) : trimEnd (text ++ [last]) = text ++ [last] := by
  induction text with
  | nil => simp [trimEnd, visible]
  | cons char rest inductionHypothesis =>
      simp only [List.cons_append, trimEnd, inductionHypothesis]
      cases rest <;> rfl

end Turnstile.Text
