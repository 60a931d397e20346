import Turnstile.Text.Quoted
import Turnstile.Text.Utf8
set_option autoImplicit false

/-! Strings between the quotes of a JSON text. Writing escapes quotes,
backslashes and control characters and nothing else; reading undoes every
escape, and refuses half of a surrogate pair and octets that are no text. -/

namespace Turnstile.Json

def shortEscape? (char : Char) : Option Char :=
  if char = '"' then some '"'
  else if char = '\\' then some '\\'
  else if char = '\x08' then some 'b'
  else if char = '\t' then some 't'
  else if char = '\n' then some 'n'
  else if char = '\x0c' then some 'f'
  else if char = '\r' then some 'r'
  else none

def escapeChar (char : Char) : List Char :=
  match shortEscape? char with
  | some letter => ['\\', letter]
  | none =>
      if char.toNat < 0x20 then
        ['\\', 'u', '0', '0', Text.hexDigit (char.toNat / 16), Text.hexDigit (char.toNat % 16)]
      else [char]

def escape (text : List Char) : List Char := text.flatMap escapeChar

def quote (text : List Char) : List Char := '"' :: escape text ++ ['"']

def hexValue? (digit : Char) : Option Nat :=
  let point := digit.toNat
  if 48 ≤ point ∧ point ≤ 57 then some (point - 48)
  else if 65 ≤ point ∧ point ≤ 70 then some (point - 55)
  else if 97 ≤ point ∧ point ≤ 102 then some (point - 87)
  else none

def unit? (a b c d : Char) : Option Nat := do
  let a ← hexValue? a
  let b ← hexValue? b
  let c ← hexValue? c
  let d ← hexValue? d
  return ((a * 16 + b) * 16 + c) * 16 + d

def shortUnescape? (letter : Char) : Option Char :=
  if letter = '"' then some '"'
  else if letter = '\\' then some '\\'
  else if letter = '/' then some '/'
  else if letter = 'b' then some '\x08'
  else if letter = 'f' then some '\x0c'
  else if letter = 'n' then some '\n'
  else if letter = 'r' then some '\r'
  else if letter = 't' then some '\t'
  else none

def isHighSurrogate (unit : Nat) : Bool := 0xd800 ≤ unit && unit ≤ 0xdbff

def isLowSurrogate (unit : Nat) : Bool := 0xdc00 ≤ unit && unit ≤ 0xdfff

def unescape? : List Char → Option (List Char)
  | [] => some []
  | '\\' :: 'u' :: a :: b :: c :: d :: rest =>
      match unit? a b c d with
      | none => none
      | some high =>
          if isHighSurrogate high then
            match rest with
            | '\\' :: 'u' :: e :: f :: g :: h :: rest =>
                match unit? e f g h with
                | none => none
                | some low =>
                    if isLowSurrogate low then
                      (unescape? rest).map
                        (Char.ofNat (0x10000 + (high - 0xd800) * 0x400 + (low - 0xdc00)) :: ·)
                    else none
            | _ => none
          else if isLowSurrogate high then none
          else (unescape? rest).map (Char.ofNat high :: ·)
  | '\\' :: letter :: rest =>
      match shortUnescape? letter with
      | some char => (unescape? rest).map (char :: ·)
      | none => none
  | char :: rest => if char = '\\' then none else (unescape? rest).map (char :: ·)

def text? (body : Bytes) : Option String := do
  let chars ← (Utf8.decodeChars body).toOption
  let text ← unescape? chars
  return String.ofList text

theorem hexValue?_hexDigit : ∀ value < 16, hexValue? (Text.hexDigit value) = some value := by
  decide

theorem unit?_octet {value : Nat} (small : value < 0x100) :
    unit? '0' '0' (Text.hexDigit (value / 16)) (Text.hexDigit (value % 16)) = some value := by
  have zero : hexValue? '0' = some 0 := by decide
  have high := hexValue?_hexDigit (value / 16) (by omega)
  have low := hexValue?_hexDigit (value % 16) (by omega)
  have sum : ((0 * 16 + 0) * 16 + value / 16) * 16 + value % 16 = value := by omega
  simp only [unit?, zero, high, low, Option.bind_eq_bind, Option.bind_some, Option.pure_def, sum]

theorem shortUnescape?_of_shortEscape? {char letter : Char}
    (escaped : shortEscape? char = some letter) :
    letter ≠ 'u' ∧ shortUnescape? letter = some char := by
  unfold shortEscape? at escaped
  repeat' split at escaped
  all_goals cases escaped
  all_goals subst_vars
  all_goals decide

theorem unescape?_short {letter char : Char} (rest : List Char) (notNumber : letter ≠ 'u')
    (meaning : shortUnescape? letter = some char) :
    unescape? ('\\' :: letter :: rest) = (unescape? rest).map (char :: ·) := by
  rw [unescape?.eq_3 _ _ (by intro _ _ _ _ _ same; exact absurd same notNumber), meaning]

theorem unescape?_plain {char : Char} (rest : List Char) (plain : char ≠ '\\') :
    unescape? (char :: rest) = (unescape? rest).map (char :: ·) := by
  rw [unescape?.eq_4 _ _ (by intro _ _ _ _ _ same; exact absurd same plain)
    (by intro _ _ same; exact absurd same plain), if_neg plain]

theorem unescape?_octet {value : Nat} (rest : List Char) (small : value < 0x100) :
    unescape? ('\\' :: 'u' :: '0' :: '0' :: Text.hexDigit (value / 16) ::
        Text.hexDigit (value % 16) :: rest) =
      (unescape? rest).map (Char.ofNat value :: ·) := by
  have notHigh : isHighSurrogate value = false := by
    simp only [isHighSurrogate, Bool.and_eq_false_iff, decide_eq_false_iff_not]
    omega
  have notLow : isLowSurrogate value = false := by
    simp only [isLowSurrogate, Bool.and_eq_false_iff, decide_eq_false_iff_not]
    omega
  rw [unescape?.eq_2, unit?_octet small]
  simp [notHigh, notLow]

theorem unescape?_escapeChar (char : Char) (rest : List Char) :
    unescape? (escapeChar char ++ rest) = (unescape? rest).map (char :: ·) := by
  unfold escapeChar
  cases escaped : shortEscape? char with
  | some letter =>
      obtain ⟨notNumber, meaning⟩ := shortUnescape?_of_shortEscape? escaped
      exact unescape?_short rest notNumber meaning
  | none =>
      by_cases control : char.toNat < 0x20
      · simp only [control, if_true, List.cons_append, List.nil_append]
        rw [unescape?_octet rest (by omega), Char.ofNat_toNat]
      · have plain : char ≠ '\\' := by
          intro same
          subst same
          exact absurd escaped (by decide)
        simp only [control, if_false, List.singleton_append]
        exact unescape?_plain rest plain

theorem unescape?_escape (text : List Char) : unescape? (escape text) = some text := by
  induction text with
  | nil => rfl
  | cons char rest inductionHypothesis =>
      have split : escape (char :: rest) = escapeChar char ++ escape rest := List.flatMap_cons
      rw [split, unescape?_escapeChar, inductionHypothesis]
      rfl

/-- What is written for a text between quotes is read as that text. -/
theorem text?_encodeChars_escape (text : List Char) :
    text? (Utf8.encodeChars (escape text)) = some (String.ofList text) := by
  simp [text?, Utf8.decodeChars_encodeChars, unescape?_escape, Except.toOption]

end Turnstile.Json
