set_option autoImplicit false

/-! The lines of a text. A line ends at a line feed or at a carriage return and
line feed; a line end at the end of the text starts no further line. -/

namespace Turnstile.Text

def extendFirst (char : Char) : List (List Char) → List (List Char)
  | [] => [[char]]
  | line :: rest => (char :: line) :: rest

def lines : List Char → List (List Char)
  | [] => []
  | '\r' :: '\n' :: rest => [] :: lines rest
  | '\n' :: rest => [] :: lines rest
  | char :: rest => extendFirst char (lines rest)

/-- A text cut at every occurrence of a separator, as many pieces as separators
and one more. -/
def splitOn (separator : Char) : List Char → List (List Char)
  | [] => [[]]
  | char :: rest =>
      if char = separator then [] :: splitOn separator rest
      else extendFirst char (splitOn separator rest)

theorem splitOn_ne_nil (separator : Char) (text : List Char) : splitOn separator text ≠ [] := by
  induction text with
  | nil => simp [splitOn]
  | cons char rest inductionHypothesis =>
      unfold splitOn
      split
      · simp
      · cases equality : splitOn separator rest with
        | nil => exact absurd equality inductionHypothesis
        | cons piece pieces => simp [extendFirst]

theorem splitOn_eq_singleton (separator : Char) (text : List Char) (absent : separator ∉ text) :
    splitOn separator text = [text] := by
  induction text with
  | nil => rfl
  | cons char rest inductionHypothesis =>
      have different : char ≠ separator := fun same => absent (by simp [same])
      have restAbsent : separator ∉ rest := fun member => absent (by simp [member])
      simp [splitOn, different, inductionHypothesis restAbsent, extendFirst]

theorem splitOn_append (separator : Char) (piece rest : List Char) (absent : separator ∉ piece) :
    splitOn separator (piece ++ separator :: rest) = piece :: splitOn separator rest := by
  induction piece with
  | nil => simp [splitOn]
  | cons char piece inductionHypothesis =>
      have different : char ≠ separator := fun same => absent (by simp [same])
      have restAbsent : separator ∉ piece := fun member => absent (by simp [member])
      simp [splitOn, different, inductionHypothesis restAbsent, extendFirst]

end Turnstile.Text
