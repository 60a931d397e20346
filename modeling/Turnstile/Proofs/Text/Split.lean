import Turnstile.Text.Line
set_option autoImplicit false

/-! Texts cut at a separator. The pieces are without separators, they make up the text again, and
pieces without separators are found in the text that they make up. -/

namespace Turnstile.Text

theorem intercalate_splitOn (separator : Char) (text : List Char) :
    [separator].intercalate (splitOn separator text) = text := by
  induction text with
  | nil => rfl
  | cons char rest ih =>
      cases pieces : splitOn separator rest with
      | nil => exact absurd pieces (splitOn_ne_nil separator rest)
      | cons piece more =>
          rw [pieces] at ih
          by_cases same : char = separator
          · rw [splitOn, if_pos same, pieces, List.intercalate_cons_cons, ih, same]
            rfl
          · rw [splitOn, if_neg same, pieces, extendFirst]
            rw [← ih]
            cases more <;> simp [List.intercalate_cons_cons]

theorem not_mem_of_mem_splitOn {separator : Char} {text piece : List Char}
    (member : piece ∈ splitOn separator text) : separator ∉ piece := by
  induction text generalizing piece with
  | nil =>
      rw [splitOn, List.mem_singleton] at member
      rw [member]
      exact List.not_mem_nil
  | cons char rest ih =>
      by_cases same : char = separator
      · rw [splitOn, if_pos same] at member
        rcases List.mem_cons.mp member with rfl | inside
        · exact List.not_mem_nil
        · exact ih inside
      · rw [splitOn, if_neg same] at member
        cases pieces : splitOn separator rest with
        | nil => exact absurd pieces (splitOn_ne_nil separator rest)
        | cons first more =>
            rw [pieces] at ih
            rw [pieces, extendFirst] at member
            rcases List.mem_cons.mp member with rfl | inside
            · intro inPiece
              rcases List.mem_cons.mp inPiece with first | later
              · exact same first.symm
              · exact ih List.mem_cons_self later
            · exact ih (List.mem_cons_of_mem _ inside)

theorem splitOn_intercalate {separator : Char} {pieces : List (List Char)} (filled : pieces ≠ [])
    (plain : ∀ piece ∈ pieces, separator ∉ piece) :
    splitOn separator ([separator].intercalate pieces) = pieces := by
  induction pieces with
  | nil => exact absurd rfl filled
  | cons piece more ih =>
      have absent := plain piece List.mem_cons_self
      cases more with
      | nil => rw [List.intercalate_singleton, splitOn_eq_singleton separator piece absent]
      | cons next later =>
          rw [List.intercalate_cons_cons, List.append_assoc, List.singleton_append,
            splitOn_append separator piece _ absent, ih (List.cons_ne_nil _ _)
              fun other member => plain other (List.mem_cons_of_mem _ member)]

end Turnstile.Text
