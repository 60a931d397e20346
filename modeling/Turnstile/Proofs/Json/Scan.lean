import Turnstile.Json.Printer
import Turnstile.Proofs.Text.Utf8
set_option autoImplicit false

/-! The words of a rendered value. Every value is written as tokens that are read back one by
one, whatever follows the value, as long as it does not go on with the last word. -/

namespace Turnstile

namespace Json

open Token (scanFrom)

/-! ### Words -/

/-- A place where no word goes on. -/
def Closes (rest : Bytes) : Prop := ∀ octet ∈ rest.head?, Token.isWordOctet octet = false

private theorem closes_cons {octet : UInt8} (rest : Bytes)
    (notWord : Token.isWordOctet octet = false) : Closes (octet :: rest) := by
  intro other member
  cases member
  exact notWord

private theorem scanFrom_word (before letters rest : Bytes)
    (allWord : ∀ octet ∈ letters, Token.isWordOctet octet = true) (closes : Closes rest) :
    scanFrom (.word before) (letters ++ rest) =
      (scanFrom .between rest).map (.word (before.reverse ++ letters) :: ·) := by
  induction letters generalizing before with
  | nil =>
      rw [List.nil_append, List.append_nil]
      cases rest with
      | nil => rfl
      | cons octet rest =>
          have notWord := closes octet rfl
          simp only [scanFrom, Token.step, notWord, Bool.false_eq_true, if_false, Option.map_map]
          rfl
  | cons octet letters ih =>
      have word := allWord octet List.mem_cons_self
      simp only [List.cons_append, scanFrom, Token.step, word, if_true]
      rw [ih (octet :: before) fun other member => allWord other (List.mem_cons_of_mem _ member)]
      simp only [Option.map_map, List.reverse_cons, List.append_assoc, List.singleton_append]
      rfl

theorem scanFrom_between_word (letters rest : Bytes) (some_letter : letters ≠ [])
    (allWord : ∀ octet ∈ letters, Token.isWordOctet octet = true) (closes : Closes rest) :
    scanFrom .between (letters ++ rest) = (scanFrom .between rest).map (.word letters :: ·) := by
  cases letters with
  | nil => exact absurd rfl some_letter
  | cons octet letters =>
      have word := allWord octet List.mem_cons_self
      simp only [Token.isWordOctet, Bool.and_eq_true, Bool.not_eq_true', Option.isNone_iff_eq_none,
        bne_iff_ne, ne_eq] at word
      have started : Token.start octet = ([], .word [octet]) := by
        simp only [Token.start, word.1.1, word.1.2, word.2, Bool.false_eq_true, if_false]
      simp only [List.cons_append, scanFrom, Token.step, started]
      rw [scanFrom_word [octet] letters rest
        (fun other member => allWord other (List.mem_cons_of_mem _ member)) closes]
      simp only [Option.map_map]
      rfl

/-! ### Strings -/

private theorem scanFrom_inert (body octets rest : Bytes)
    (inert : ∀ octet ∈ octets, octet ≠ Token.quote ∧ octet ≠ Token.backslash ∧
      0x20 ≤ octet.toNat) :
    scanFrom (.string body) (octets ++ rest) =
      scanFrom (.string (octets.reverse ++ body)) rest := by
  induction octets generalizing body with
  | nil => rfl
  | cons octet octets ih =>
      obtain ⟨notQuote, notBackslash, visible⟩ := inert octet List.mem_cons_self
      simp only [List.cons_append, scanFrom, Token.step, notQuote, notBackslash, if_false,
        if_neg (Nat.not_lt.mpr visible)]
      rw [ih (octet :: body) fun other member => inert other (List.mem_cons_of_mem _ member)]
      simp

private theorem scanFrom_shortEscape (body rest : Bytes) {octet : UInt8}
    (short : Token.isShortEscape octet = true) :
    scanFrom (.string body) (Token.backslash :: octet :: rest) =
      scanFrom (.string (octet :: Token.backslash :: body)) rest := by
  have notNumber : octet ≠ 0x75 := by
    rintro rfl
    cases short
  have notQuote : ¬ Token.backslash = Token.quote := by decide
  simp only [scanFrom, Token.step, notQuote, if_false, if_true, notNumber, short]
  simp

private theorem scanFrom_digit (missing : Nat) (body rest : Bytes) {octet : UInt8}
    (hex : Token.isHexDigit octet = true) :
    scanFrom (.digits missing body) (octet :: rest) =
      if missing ≤ 1 then scanFrom (.string (octet :: body)) rest
      else scanFrom (.digits (missing - 1) (octet :: body)) rest := by
  simp only [scanFrom, Token.step, hex, if_true]
  by_cases last : missing ≤ 1
  · simp only [if_pos last]
    simp
  · simp only [if_neg last]
    simp

private theorem scanFrom_digits (body rest : Bytes) {a b c d : UInt8}
    (first : Token.isHexDigit a = true) (second : Token.isHexDigit b = true)
    (third : Token.isHexDigit c = true) (fourth : Token.isHexDigit d = true) :
    scanFrom (.string body) (Token.backslash :: 0x75 :: a :: b :: c :: d :: rest) =
      scanFrom (.string (d :: c :: b :: a :: 0x75 :: Token.backslash :: body)) rest := by
  have opened : scanFrom (.string body) (Token.backslash :: 0x75 :: a :: b :: c :: d :: rest) =
      scanFrom (.digits 4 (0x75 :: Token.backslash :: body)) (a :: b :: c :: d :: rest) := by
    have notQuote : ¬ Token.backslash = Token.quote := by decide
    rw [scanFrom, Token.step]
    simp only [notQuote, if_false, if_true]
    rw [scanFrom, Token.step]
    simp
  rw [opened, scanFrom_digit _ _ _ first, scanFrom_digit _ _ _ second, scanFrom_digit _ _ _ third,
    scanFrom_digit _ _ _ fourth]
  rfl

private theorem isShortEscape_of_shortEscape? {char letter : Char}
    (escaped : shortEscape? char = some letter) :
    letter.toNat < 0x80 ∧ Token.isShortEscape (UInt8.ofNat letter.toNat) = true := by
  unfold shortEscape? at escaped
  repeat' split at escaped
  all_goals cases escaped
  all_goals decide

private theorem isHexDigit_hexDigit : ∀ value < 16, (Text.hexDigit value).toNat < 0x80 ∧
    Token.isHexDigit (UInt8.ofNat (Text.hexDigit value).toNat) = true := by
  decide

private theorem scanFrom_escapeChar (body rest : Bytes) (char : Char) :
    scanFrom (.string body) (Utf8.encodeChars (escapeChar char) ++ rest) =
      scanFrom (.string ((Utf8.encodeChars (escapeChar char)).reverse ++ body)) rest := by
  unfold escapeChar
  cases escaped : shortEscape? char with
  | some letter =>
      obtain ⟨small, short⟩ := isShortEscape_of_shortEscape? escaped
      have octets : Utf8.encodeChars ['\\', letter] =
          [Token.backslash, UInt8.ofNat letter.toNat] := by
        rw [Utf8.encodeChars_cons, Utf8.encodeChars_cons, Utf8.encodeChar_of_small small]
        rfl
      simp only [octets]
      exact scanFrom_shortEscape body rest short
  | none =>
      by_cases control : char.toNat < 0x20
      · obtain ⟨smallHigh, high⟩ := isHexDigit_hexDigit (char.toNat / 16) (by omega)
        obtain ⟨smallLow, low⟩ := isHexDigit_hexDigit (char.toNat % 16) (by omega)
        have octets : Utf8.encodeChars ['\\', 'u', '0', '0', Text.hexDigit (char.toNat / 16),
            Text.hexDigit (char.toNat % 16)] =
              [Token.backslash, 0x75, 0x30, 0x30,
                UInt8.ofNat (Text.hexDigit (char.toNat / 16)).toNat,
                UInt8.ofNat (Text.hexDigit (char.toNat % 16)).toNat] := by
          simp only [Utf8.encodeChars_cons, Utf8.encodeChar_of_small smallHigh,
            Utf8.encodeChar_of_small smallLow]
          rfl
        simp only [if_pos control, octets]
        exact scanFrom_digits body rest (by decide) (by decide) high low
      · simp only [if_neg control]
        apply scanFrom_inert
        intro octet member
        rw [Utf8.encodeChars_cons, Utf8.encodeChars, List.flatMap_nil, List.append_nil] at member
        by_cases small : char.toNat < 0x80
        · rw [Utf8.encodeChar_of_small small, List.mem_singleton] at member
          have value : octet.toNat = char.toNat := by
            rw [member, Utf8.toNat_ofNat_octet (by omega)]
          refine ⟨?_, ?_, by omega⟩
          · rintro rfl
            rw [← Char.ofNat_toNat char, ← value] at escaped
            cases escaped
          · rintro rfl
            rw [← Char.ofNat_toNat char, ← value] at escaped
            cases escaped
        · have large := Utf8.encodeChar_of_large (Nat.not_lt.mp small) member
          refine ⟨?_, ?_, by omega⟩
          · rintro rfl
            exact absurd large (by decide)
          · rintro rfl
            exact absurd large (by decide)

private theorem scanFrom_escape (body rest : Bytes) (text : List Char) :
    scanFrom (.string body) (Utf8.encodeChars (escape text) ++ rest) =
      scanFrom (.string ((Utf8.encodeChars (escape text)).reverse ++ body)) rest := by
  induction text generalizing body with
  | nil => rfl
  | cons char text ih =>
      have split : escape (char :: text) = escapeChar char ++ escape text := List.flatMap_cons
      rw [split, Utf8.encodeChars_append, List.append_assoc, scanFrom_escapeChar, ih,
        List.reverse_append, List.append_assoc]

/-- The octets between the quotes of a text. -/
def bodyOf (text : String) : Bytes := Utf8.encodeChars (escape text.toList)

theorem scanFrom_quote (text : String) (rest : Bytes) :
    scanFrom .between (Utf8.encodeChars (quote text.toList) ++ rest) =
      (scanFrom .between rest).map (.string (bodyOf text) :: ·) := by
  have octets : Utf8.encodeChars (quote text.toList) ++ rest =
      Token.quote :: (bodyOf text ++ Token.quote :: rest) := by
    rw [quote, List.cons_append, Utf8.encodeChars_cons, Utf8.encodeChars_append, bodyOf]
    simp only [List.append_assoc]
    rfl
  have opened : Token.start Token.quote = ([], .string []) := by decide
  rw [octets, scanFrom, Token.step]
  simp only [opened]
  rw [bodyOf, scanFrom_escape, List.append_nil, scanFrom, Token.step]
  simp only [if_true, List.reverse_reverse, Option.map_map]
  rfl

/-! ### Numbers -/

/-- A character of the notation of a number. -/
def InNumeral (char : Char) : Prop := char.isDigit = true ∨ char ∈ ['.', 'e', '+', '-']

private theorem wordOctet_of_small : ∀ point < 0x80,
    (48 ≤ point ∧ point ≤ 57 ∨ point ∈ [46, 101, 43, 45]) →
      Token.isWordOctet (UInt8.ofNat point) = true := by
  decide

theorem wordOctet_of_inNumeral {char : Char} (inNumeral : InNumeral char) :
    char.toNat < 0x80 ∧ Token.isWordOctet (UInt8.ofNat char.toNat) = true := by
  have point : 48 ≤ char.toNat ∧ char.toNat ≤ 57 ∨ char.toNat ∈ [46, 101, 43, 45] := by
    rcases inNumeral with digit | mark
    · exact Or.inl (Char.isDigit_iff_toNat.mp digit)
    · simp only [List.mem_cons, List.not_mem_nil, or_false] at mark
      rcases mark with rfl | rfl | rfl | rfl <;> exact Or.inr (by decide)
  have small : char.toNat < 0x80 := by
    rcases point with digit | mark
    · omega
    · simp only [List.mem_cons, List.not_mem_nil, or_false] at mark
      omega
  exact ⟨small, wordOctet_of_small _ small point⟩

private theorem inNumeral_toDigits {value : Nat} {char : Char}
    (member : char ∈ Nat.toDigits 10 value) : InNumeral char :=
  Or.inl (Nat.isDigit_of_mem_toDigits (by decide) (by decide) member)

private theorem inNumeral_render (layout : Decimal.Layout) (decimal : Decimal) :
    ∀ char ∈ decimal.render layout, InNumeral char := by
  have digits : ∀ char ∈ Nat.toDigits 10 decimal.digits, InNumeral char := by
    intro char member
    exact inNumeral_toDigits member
  have zeros : ∀ (count : Nat), ∀ char ∈ List.replicate count '0', InNumeral char := by
    intro count char member
    rw [List.eq_of_mem_replicate member]
    exact Or.inl rfl
  have point : InNumeral '.' := Or.inr (by decide)
  have zero : InNumeral '0' := Or.inl rfl
  intro char member
  unfold Decimal.render at member
  simp only at member
  split at member
  · split at member
    · simp only [List.mem_append, List.mem_cons, List.not_mem_nil, or_false] at member
      rcases member with (inDigits | inZeros) | rfl | rfl
      · exact digits char inDigits
      · exact zeros _ char inZeros
      · exact point
      · exact zero
    · split at member
      · simp only [List.mem_append, List.mem_cons] at member
        rcases member with front | rfl | back
        · exact digits char (List.mem_of_mem_take front)
        · exact point
        · exact digits char (List.mem_of_mem_drop back)
      · simp only [List.cons_append, List.mem_append, List.mem_cons] at member
        rcases member with rfl | rfl | inZeros | inDigits
        · exact zero
        · exact point
        · exact zeros _ char inZeros
        · exact digits char inDigits
  · simp only [List.mem_append, List.mem_cons, List.not_mem_nil, or_false] at member
    rcases member with (mantissa | rfl | rfl) | exponent
    · split at mantissa
      · rename_i lead written
        rw [List.mem_singleton] at mantissa
        exact digits char (by rw [written, mantissa]; exact List.mem_cons_self)
      · rename_i lead rest written
        rcases List.mem_cons.mp mantissa with rfl | behind
        · exact digits char (by rw [written]; exact List.mem_cons_self)
        · rcases List.mem_cons.mp behind with rfl | later
          · exact point
          · exact digits char (by rw [written]; exact List.mem_cons_of_mem _ later)
      · cases mantissa
    · exact Or.inr (by decide)
    · split <;> exact Or.inr (by decide)
    · exact inNumeral_toDigits exponent

theorem inNumeral_renderNumber (value : Number) :
    ∀ char ∈ renderNumber value, InNumeral char := by
  have minus : InNumeral '-' := Or.inr (by decide)
  intro char member
  cases value with
  | int whole =>
      unfold renderNumber renderInt at member
      simp only at member
      split at member
      · rcases List.mem_cons.mp member with rfl | digit
        · exact minus
        · exact inNumeral_toDigits digit
      · exact inNumeral_toDigits member
  | real value =>
      have magnitude : ∀ char ∈ (if value.units = 0 then ['0', '.', '0']
          else (Binary64.shortest value.units).render realLayout), InNumeral char := by
        intro char member
        split at member
        · simp only [List.mem_cons, List.not_mem_nil, or_false] at member
          rcases member with rfl | rfl | rfl
          · exact Or.inl rfl
          · exact Or.inr (by decide)
          · exact Or.inl rfl
        · exact inNumeral_render _ _ char member
      unfold renderNumber renderReal at member
      simp only at member
      split at member
      · rcases List.mem_cons.mp member with rfl | behind
        · exact minus
        · exact magnitude char behind
      · exact magnitude char member

private theorem render_ne_nil (layout : Decimal.Layout) (decimal : Decimal) :
    decimal.render layout ≠ [] := by
  unfold Decimal.render
  simp only
  split
  · split
    · simp
    · split <;> simp
  · simp

private theorem renderNumber_ne_nil (value : Number) : renderNumber value ≠ [] := by
  cases value with
  | int whole =>
      unfold renderNumber renderInt
      simp only
      split
      · exact List.cons_ne_nil _ _
      · exact Nat.toDigits_ne_nil
  | real value =>
      unfold renderNumber renderReal
      simp only
      split
      · exact List.cons_ne_nil _ _
      · split
        · exact List.cons_ne_nil _ _
        · exact render_ne_nil _ _

theorem scanFrom_number (value : Number) {rest : Bytes} (closes : Closes rest) :
    scanFrom .between (Utf8.encodeChars (renderNumber value) ++ rest) =
      (scanFrom .between rest).map (.word (Utf8.encodeChars (renderNumber value)) :: ·) := by
  have small : ∀ text : List Char, (∀ char ∈ text, InNumeral char) →
      ∀ octet ∈ Utf8.encodeChars text, Token.isWordOctet octet = true := by
    intro text inNumeral octet member
    obtain ⟨char, written, inside⟩ := List.mem_flatMap.mp member
    obtain ⟨small, word⟩ := wordOctet_of_inNumeral (inNumeral char written)
    rw [Utf8.encodeChar_of_small small, List.mem_singleton] at inside
    rw [inside]
    exact word
  have written : Utf8.encodeChars (renderNumber value) ≠ [] := by
    cases chars : renderNumber value with
    | nil => exact absurd chars (renderNumber_ne_nil value)
    | cons char rest =>
        have inNumeral := inNumeral_renderNumber value char
          (by rw [chars]; exact List.mem_cons_self)
        rw [Utf8.encodeChars_cons,
          Utf8.encodeChar_of_small (wordOctet_of_inNumeral inNumeral).1]
        exact List.cons_ne_nil _ _
  exact scanFrom_between_word _ _ written (small _ (inNumeral_renderNumber value)) closes

/-! ### Values -/

mutual

def tokens : Json → List Token
  | .null => [.word (Utf8.encodeChars ['n', 'u', 'l', 'l'])]
  | .bool true => [.word (Utf8.encodeChars ['t', 'r', 'u', 'e'])]
  | .bool false => [.word (Utf8.encodeChars ['f', 'a', 'l', 's', 'e'])]
  | .number value => [.word (Utf8.encodeChars (renderNumber value))]
  | .string value => [.string (bodyOf value)]
  | .array items => .openBracket :: (itemTokens items ++ [.closeBracket])
  | .object members => .openBrace :: (memberTokens members ++ [.closeBrace])

def itemTokens : List Json → List Token
  | [] => []
  | [item] => tokens item
  | item :: rest => tokens item ++ .comma :: itemTokens rest

def memberTokens : List (String × Json) → List Token
  | [] => []
  | [(key, value)] => .string (bodyOf key) :: .colon :: tokens value
  | (key, value) :: rest =>
      .string (bodyOf key) :: .colon :: (tokens value ++ .comma :: memberTokens rest)

end

theorem itemTokens_cons (item next : Json) (more : List Json) :
    itemTokens (item :: next :: more) = tokens item ++ .comma :: itemTokens (next :: more) := rfl

theorem memberTokens_cons (key : String) (value : Json) (next : String × Json)
    (more : List (String × Json)) :
    memberTokens ((key, value) :: next :: more) =
      .string (bodyOf key) :: .colon :: (tokens value ++ .comma :: memberTokens (next :: more)) :=
  rfl

private theorem renderItems_cons (item next : Json) (more : List Json) :
    renderItems (item :: next :: more) = render item ++ ',' :: renderItems (next :: more) := rfl

private theorem renderMembers_cons (key : String) (value : Json) (next : String × Json)
    (more : List (String × Json)) :
    renderMembers ((key, value) :: next :: more) =
      quote key.toList ++ ':' :: render value ++ ',' :: renderMembers (next :: more) := rfl

private theorem scanFrom_punctuation {octet : UInt8} (token : Token) (rest : Bytes)
    (started : Token.start octet = ([token], .between)) :
    scanFrom .between (octet :: rest) = (scanFrom .between rest).map (token :: ·) := by
  simp only [scanFrom, Token.step, started]
  rfl

mutual

theorem scanFrom_render (value : Json) {rest : Bytes} (closes : Closes rest) :
    scanFrom .between (Utf8.encodeChars value.render ++ rest) =
      (scanFrom .between rest).map (value.tokens ++ ·) := by
  cases value with
  | null => exact scanFrom_between_word _ _ (by decide +kernel) (by decide +kernel) closes
  | bool truth =>
      cases truth with
      | true => exact scanFrom_between_word _ _ (by decide +kernel) (by decide +kernel) closes
      | false => exact scanFrom_between_word _ _ (by decide +kernel) (by decide +kernel) closes
  | number value => exact scanFrom_number value closes
  | string text => exact scanFrom_quote text rest
  | array items =>
      have octets : Utf8.encodeChars (render (.array items)) ++ rest =
          0x5b :: (Utf8.encodeChars (renderItems items) ++ 0x5d :: rest) := by
        rw [render, List.cons_append, Utf8.encodeChars_cons, Utf8.encodeChars_append]
        simp only [List.append_assoc]
        rfl
      rw [octets, scanFrom_punctuation .openBracket _ (by decide),
        scanFrom_renderItems items (closes_cons rest (by decide)),
        scanFrom_punctuation .closeBracket _ (by decide), tokens]
      simp only [Option.map_map, List.cons_append, List.append_assoc]
      rfl
  | object members =>
      have octets : Utf8.encodeChars (render (.object members)) ++ rest =
          0x7b :: (Utf8.encodeChars (renderMembers members) ++ 0x7d :: rest) := by
        rw [render, List.cons_append, Utf8.encodeChars_cons, Utf8.encodeChars_append]
        simp only [List.append_assoc]
        rfl
      rw [octets, scanFrom_punctuation .openBrace _ (by decide),
        scanFrom_renderMembers members (closes_cons rest (by decide)),
        scanFrom_punctuation .closeBrace _ (by decide), tokens]
      simp only [Option.map_map, List.cons_append, List.append_assoc]
      rfl

theorem scanFrom_renderItems (items : List Json) {rest : Bytes} (closes : Closes rest) :
    scanFrom .between (Utf8.encodeChars (renderItems items) ++ rest) =
      (scanFrom .between rest).map (itemTokens items ++ ·) := by
  match items with
  | [] =>
      rw [renderItems, itemTokens]
      exact (Option.map_id' ..).symm
  | [item] =>
      rw [renderItems, itemTokens]
      exact scanFrom_render item closes
  | item :: next :: more =>
      have octets : Utf8.encodeChars (renderItems (item :: next :: more)) ++ rest =
          Utf8.encodeChars item.render ++
            0x2c :: (Utf8.encodeChars (renderItems (next :: more)) ++ rest) := by
        rw [renderItems_cons, Utf8.encodeChars_append, Utf8.encodeChars_cons]
        simp only [List.append_assoc]
        rfl
      rw [octets, scanFrom_render item (closes_cons _ (by decide)),
        scanFrom_punctuation .comma _ (by decide),
        scanFrom_renderItems (next :: more) closes, itemTokens_cons]
      simp only [Option.map_map, List.cons_append, List.append_assoc]
      rfl

theorem scanFrom_renderMembers (members : List (String × Json)) {rest : Bytes}
    (closes : Closes rest) :
    scanFrom .between (Utf8.encodeChars (renderMembers members) ++ rest) =
      (scanFrom .between rest).map (memberTokens members ++ ·) := by
  match members with
  | [] =>
      rw [renderMembers, memberTokens]
      exact (Option.map_id' ..).symm
  | [(key, value)] =>
      have octets : Utf8.encodeChars (renderMembers [(key, value)]) ++ rest =
          Utf8.encodeChars (quote key.toList) ++
            0x3a :: (Utf8.encodeChars value.render ++ rest) := by
        rw [renderMembers, Utf8.encodeChars_append, Utf8.encodeChars_cons]
        simp only [List.append_assoc]
        rfl
      rw [octets, scanFrom_quote, scanFrom_punctuation .colon _ (by decide),
        scanFrom_render value closes, memberTokens]
      simp only [Option.map_map, List.cons_append]
      rfl
  | (key, value) :: next :: more =>
      have octets : Utf8.encodeChars (renderMembers ((key, value) :: next :: more)) ++ rest =
          Utf8.encodeChars (quote key.toList) ++ 0x3a :: (Utf8.encodeChars value.render ++
            0x2c :: (Utf8.encodeChars (renderMembers (next :: more)) ++ rest)) := by
        rw [renderMembers_cons]
        simp only [Utf8.encodeChars_append, Utf8.encodeChars_cons, List.append_assoc]
        rfl
      rw [octets, scanFrom_quote, scanFrom_punctuation .colon _ (by decide),
        scanFrom_render value (closes_cons _ (by decide)),
        scanFrom_punctuation .comma _ (by decide),
        scanFrom_renderMembers (next :: more) closes, memberTokens_cons]
      simp only [Option.map_map, List.cons_append, List.append_assoc]
      rfl

end

/-- The text of a value is scanned as its tokens. -/
theorem scan?_render (value : Json) :
    Token.scan? (Utf8.encodeChars value.render) = some value.tokens := by
  have closes : Closes [] := by
    intro octet member
    cases member
  have scanned := scanFrom_render value closes
  rw [List.append_nil] at scanned
  rw [Token.scan?, scanned]
  simp [scanFrom, Token.finish]

end Json

end Turnstile
