import Turnstile.Text.Blank
import Turnstile.Text.Line
set_option autoImplicit false

/-! Trimming and lines. What is trimmed has no blanks at its ends, and trimming does not tell
how a line ends: with a line feed alone, or with a carriage return in front of it. -/

namespace Turnstile.Text

/-! ### Visible characters -/

/-- A character of seven bits that is seen: no control character and no blank. -/
def Visible (char : Char) : Prop := 0x21 ≤ char.toNat ∧ char.toNat < 0x7f

theorem isBlank_of_visible {char : Char} (visible : Visible char) : isBlank char = false := by
  obtain ⟨low, high⟩ := visible
  simp only [isBlank, Bool.or_eq_false_iff, Bool.and_eq_false_iff, decide_eq_false_iff_not,
    beq_eq_false_iff_ne]
  omega

theorem trimEnd_of_visible {text : List Char} (visible : ∀ char ∈ text, Visible char) :
    trimEnd text = text := by
  rcases List.eq_nil_or_concat text with rfl | ⟨before, last, rfl⟩
  · rfl
  · rw [List.concat_eq_append] at visible ⊢
    exact trimEnd_append_of_not_blank before (isBlank_of_visible (visible last (by simp)))

/-! ### Blanks at the end -/

theorem trimEnd_cons_of_not_blank {char : Char} (rest : List Char)
    (visible : isBlank char = false) : trimEnd (char :: rest) = char :: trimEnd rest := by
  rw [trimEnd]
  cases trimEnd rest with
  | nil => rw [visible, if_neg Bool.false_ne_true]
  | cons _ _ => rfl

theorem trimEnd_append_of_ne_nil (text : List Char) {rest : List Char}
    (kept : trimEnd rest ≠ []) : trimEnd (text ++ rest) = text ++ trimEnd rest := by
  induction text with
  | nil => rfl
  | cons char text ih =>
      rw [List.cons_append, trimEnd, ih]
      cases whole : text ++ trimEnd rest with
      | nil => exact absurd (List.append_eq_nil_iff.mp whole).2 kept
      | cons _ _ => rw [List.cons_append, whole]

theorem trimEnd_trimEnd (text : List Char) : trimEnd (trimEnd text) = trimEnd text := by
  induction text with
  | nil => rfl
  | cons char rest ih =>
      cases kept : trimEnd rest with
      | nil =>
          cases blank : isBlank char with
          | true => simp [trimEnd, kept, blank]
          | false => simp [trimEnd, kept, blank]
      | cons first later =>
          rw [trimEnd, kept]
          rw [kept] at ih
          rw [trimEnd, ih]

theorem mem_of_mem_trimEnd {text : List Char} {char : Char} (member : char ∈ trimEnd text) :
    char ∈ text := by
  induction text with
  | nil => exact member
  | cons first rest ih =>
      cases kept : trimEnd rest with
      | nil =>
          rw [trimEnd, kept] at member
          dsimp only at member
          split at member
          · exact absurd member List.not_mem_nil
          · exact List.mem_singleton.mp member ▸ List.mem_cons_self
      | cons next later =>
          rw [trimEnd, kept] at member
          rcases List.mem_cons.mp member with same | inside
          · exact same ▸ List.mem_cons_self
          · exact List.mem_cons_of_mem _ (ih (kept ▸ inside))

theorem trimChars_append_of_blank (text : List Char) {blanks : List Char}
    (allBlank : ∀ char ∈ blanks, isBlank char = true) :
    trimChars (text ++ blanks) = trimChars text := by
  induction text with
  | nil =>
      have nothing := trimStart_append_of_blank blanks [] allBlank
      rw [List.append_nil] at nothing
      rw [List.nil_append, trimChars, nothing, trimChars]
  | cons char rest ih =>
      cases blank : isBlank char with
      | true =>
          have step : ∀ text, trimChars (char :: text) = trimChars text := fun text => by
            rw [trimChars, trimStart, blank, if_pos rfl, trimChars]
          rw [List.cons_append, step, step, ih]
      | false =>
          rw [List.cons_append, trimChars, trimStart_of_not_blank _ blank, trimChars,
            trimStart_of_not_blank _ blank, ← List.cons_append,
            trimEnd_append_of_blank _ _ allBlank]

/-! ### What trimming leaves -/

theorem exists_trimStart (text : List Char) :
    ∃ front, (∀ char ∈ front, isBlank char = true) ∧ text = front ++ trimStart text := by
  induction text with
  | nil => exact ⟨[], by simp, rfl⟩
  | cons char rest ih =>
      obtain ⟨front, blanks, split⟩ := ih
      cases blank : isBlank char with
      | true =>
          refine ⟨char :: front, by simpa [blank] using blanks, ?_⟩
          rw [trimStart, blank, if_pos rfl, List.cons_append, ← split]
      | false => exact ⟨[], by simp, by rw [trimStart_of_not_blank rest blank, List.nil_append]⟩

theorem exists_trimEnd (text : List Char) :
    ∃ back, (∀ char ∈ back, isBlank char = true) ∧ text = trimEnd text ++ back := by
  induction text with
  | nil => exact ⟨[], by simp, rfl⟩
  | cons char rest ih =>
      obtain ⟨back, blanks, split⟩ := ih
      cases blank : isBlank char with
      | false =>
          refine ⟨back, blanks, ?_⟩
          rw [trimEnd_cons_of_not_blank rest blank, List.cons_append, ← split]
      | true =>
          cases kept : trimEnd rest with
          | nil =>
              rw [kept, List.nil_append] at split
              refine ⟨char :: rest, by simpa [blank, split] using blanks, ?_⟩
              simp [trimEnd, kept, blank]
          | cons first later =>
              refine ⟨back, blanks, ?_⟩
              rw [trimEnd, kept, List.cons_append, ← kept, ← split]

theorem not_blank_of_head?_trimStart {text : List Char} {char : Char}
    (first : (trimStart text).head? = some char) : isBlank char = false := by
  induction text with
  | nil => cases first
  | cons next rest ih =>
      cases blank : isBlank next with
      | true =>
          rw [trimStart, blank, if_pos rfl] at first
          exact ih first
      | false =>
          rw [trimStart_of_not_blank rest blank] at first
          cases first
          exact blank

theorem not_blank_of_getLast?_trimEnd {text : List Char} {char : Char}
    (last : (trimEnd text).getLast? = some char) : isBlank char = false := by
  obtain ⟨before, kept⟩ := List.getLast?_eq_some_iff.mp last
  cases blank : isBlank char with
  | false => rfl
  | true =>
      have again := trimEnd_trimEnd text
      rw [kept, trimEnd_append_of_blank before [char] (by simpa using blank)] at again
      obtain ⟨_, _, split⟩ := exists_trimEnd before
      have lengths := congrArg List.length split
      rw [again] at lengths
      simp at lengths

/-- A text that has no blank at either end. -/
structure Trimmed (text : List Char) : Prop where
  first : ∀ char ∈ text.head?, isBlank char = false
  last : ∀ char ∈ text.getLast?, isBlank char = false

theorem trimmed_trimChars (text : List Char) : Trimmed (trimChars text) := by
  constructor
  · intro char member
    obtain ⟨back, _, split⟩ := exists_trimEnd (trimStart text)
    have first : (trimStart text).head? = some char := by
      rw [split, ← trimChars, List.head?_append, Option.mem_def.mp member, Option.some_or]
    exact not_blank_of_head?_trimStart first
  · intro char member
    exact not_blank_of_getLast?_trimEnd member

theorem trimChars_of_trimmed {text : List Char} (trimmed : Trimmed text) :
    trimChars text = text := by
  have start : trimStart text = text := by
    cases text with
    | nil => rfl
    | cons char rest => exact trimStart_of_not_blank rest (trimmed.first char rfl)
  rw [trimChars, start]
  rcases List.eq_nil_or_concat text with rfl | ⟨before, last, rfl⟩
  · rfl
  · rw [List.concat_eq_append] at trimmed ⊢
    exact trimEnd_append_of_not_blank before (trimmed.last last (by simp))

theorem trimmed_of_visible {text : List Char} (visible : ∀ char ∈ text, Visible char) :
    Trimmed text where
  first := fun char member => isBlank_of_visible (visible char (List.mem_of_mem_head? member))
  last := fun char member => isBlank_of_visible (visible char (List.mem_of_mem_getLast? member))

theorem trimChars_blank_append {blanks : List Char} (text : List Char)
    (allBlank : ∀ char ∈ blanks, isBlank char = true) :
    trimChars (blanks ++ text) = trimChars text := by
  rw [trimChars, trimStart_append_of_blank blanks text allBlank, trimChars]

theorem trimChars_eq_iff {text kept : List Char} :
    trimChars text = kept ↔ Trimmed kept ∧ ∃ front back,
      (∀ char ∈ front ++ back, isBlank char = true) ∧ text = front ++ (kept ++ back) := by
  constructor
  · rintro rfl
    obtain ⟨front, frontBlank, split⟩ := exists_trimStart text
    obtain ⟨back, backBlank, inner⟩ := exists_trimEnd (trimStart text)
    refine ⟨trimmed_trimChars text, front, back, ?_, ?_⟩
    · intro char member
      exact (List.mem_append.mp member).elim (frontBlank char) (backBlank char)
    · rw [trimChars, ← inner, ← split]
  · rintro ⟨trimmed, front, back, allBlank, rfl⟩
    rw [trimChars_blank_append _ fun char member => allBlank char (List.mem_append_left _ member),
      trimChars_append_of_blank _ fun char member => allBlank char (List.mem_append_right _ member),
      trimChars_of_trimmed trimmed]

theorem trimChars_eq_nil_iff {text : List Char} :
    trimChars text = [] ↔ ∀ char ∈ text, isBlank char = true := by
  constructor
  · intro empty
    obtain ⟨_, front, back, allBlank, rfl⟩ := trimChars_eq_iff.mp empty
    rw [List.nil_append]
    exact allBlank
  · intro allBlank
    have trimmed : Trimmed [] := ⟨by simp, by simp⟩
    exact trimChars_eq_iff.mpr ⟨trimmed, text, [], by simpa using allBlank, by simp⟩

theorem trim_eq_empty_iff {text : String} :
    trim text = "" ↔ ∀ char ∈ text.toList, isBlank char = true := by
  rw [← trimChars_eq_nil_iff, trim, ← String.toList_inj, String.toList_ofList]
  rfl

/-! ### Lines -/

/-- How a line ends: with a line feed, and perhaps a carriage return in front of it. -/
def lineEnd (returns : Bool) : List Char := if returns then ['\r', '\n'] else ['\n']

theorem lines_cons {char : Char} {rest : List Char} (noFeed : char ≠ '\n')
    (noEnd : char = '\r' → rest.head? ≠ some '\n') :
    lines (char :: rest) = extendFirst char (lines rest) := by
  rw [lines]
  · intro more headed tailed
    exact noEnd headed (by rw [tailed]; rfl)
  · exact noFeed

theorem lines_eq_singleton {line : List Char} (inLine : '\n' ∉ line) (nonempty : line ≠ []) :
    lines line = [line] := by
  induction line with
  | nil => exact absurd rfl nonempty
  | cons char rest ih =>
      have noFeed : char ≠ '\n' := fun same => inLine (same ▸ List.mem_cons_self)
      have restInLine : '\n' ∉ rest := fun member => inLine (List.mem_cons_of_mem _ member)
      rw [lines_cons noFeed fun _ headed => restInLine (List.mem_of_mem_head? headed)]
      cases rest with
      | nil => rfl
      | cons next later => rw [ih restInLine (List.cons_ne_nil _ _), extendFirst]

/-- A line feed ends a line. The line may have a carriage return at its end, which does not
belong to it. -/
theorem exists_lines_append_lineFeed (line rest : List Char) (inLine : '\n' ∉ line) :
    ∃ first, lines (line ++ '\n' :: rest) = first :: lines rest ∧
      (line = first ∨ line = first ++ ['\r']) := by
  induction line with
  | nil => exact ⟨[], rfl, .inl rfl⟩
  | cons char later ih =>
      have noFeed : char ≠ '\n' := fun same => inLine (same ▸ List.mem_cons_self)
      have laterInLine : '\n' ∉ later := fun member => inLine (List.mem_cons_of_mem _ member)
      obtain ⟨first, cut, same⟩ := ih laterInLine
      cases later with
      | nil =>
          by_cases returns : char = '\r'
          · exact ⟨[], by rw [returns]; rfl, .inr (by rw [returns]; rfl)⟩
          · refine ⟨[char], ?_, .inl rfl⟩
            rw [List.cons_append, lines_cons noFeed fun same => absurd same returns]
            rfl
      | cons next others =>
          have different : next ≠ '\n' := fun same => laterInLine (same ▸ List.mem_cons_self)
          have noEnd : char = '\r' → (next :: others ++ '\n' :: rest).head? ≠ some '\n' :=
            fun _ headed => different (Option.some.inj headed)
          refine ⟨char :: first, ?_, ?_⟩
          · rw [List.cons_append, lines_cons noFeed noEnd, cut, extendFirst]
          · rcases same with same | same
            · exact .inl (congrArg (char :: ·) same)
            · exact .inr (congrArg (char :: ·) same)

theorem exists_trimmed_line (line rest : List Char) (inLine : '\n' ∉ line) (returns : Bool) :
    ∃ first, lines (line ++ (lineEnd returns ++ rest)) = first :: lines rest ∧
      trimChars first = trimChars line := by
  have returnIsBlank : ∀ char ∈ ['\r'], isBlank char = true := by
    intro char member
    rw [List.mem_singleton.mp member]
    rfl
  obtain ⟨whole, spelled, wholeInLine, same⟩ : ∃ whole,
      line ++ (lineEnd returns ++ rest) = whole ++ '\n' :: rest ∧ '\n' ∉ whole ∧
        trimChars whole = trimChars line := by
    cases returns with
    | false => exact ⟨line, rfl, inLine, rfl⟩
    | true =>
        refine ⟨line ++ ['\r'], by rw [List.append_assoc]; rfl, ?_,
          trimChars_append_of_blank line returnIsBlank⟩
        rw [List.mem_append, not_or]
        exact ⟨inLine, by decide⟩
  obtain ⟨first, cut, rfl | rfl⟩ := exists_lines_append_lineFeed whole rest wholeInLine
  · exact ⟨_, spelled ▸ cut, same⟩
  · refine ⟨first, spelled ▸ cut, ?_⟩
    rw [← same, trimChars_append_of_blank first returnIsBlank]

end Turnstile.Text
