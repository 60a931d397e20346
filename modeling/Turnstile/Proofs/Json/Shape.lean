import Mathlib.Data.List.TakeWhile
import Turnstile.Json.Record
import Turnstile.Proofs.Json.Scan
set_option autoImplicit false

/-! The shape of a rendered value. A reader of the text finds the tree of the value, with the
strings and numerals as they are written. Texts and whole numbers come back from their places in
the tree as they were. -/

namespace Turnstile

namespace Json

/-! ### Words read back -/

private theorem map_char_encodeChars (text : List Char) (small : ∀ char ∈ text, char.toNat < 0x80) :
    (Utf8.encodeChars text).map (fun octet => Char.ofNat octet.toNat) = text := by
  induction text with
  | nil => rfl
  | cons char text ih =>
      have seven := small char List.mem_cons_self
      rw [Utf8.encodeChars_cons, Utf8.encodeChar_of_small seven, List.singleton_append,
        List.map_cons, ih fun other member => small other (List.mem_cons_of_mem _ member),
        Utf8.toNat_ofNat_octet (by omega), Char.ofNat_toNat]

private theorem ofWord?_number (value : Number) :
    Tree.ofWord? (Utf8.encodeChars (renderNumber value)) =
      (Numeral.read? (renderNumber value)).map .numeral := by
  have inNumeral := inNumeral_renderNumber value
  have read := map_char_encodeChars (renderNumber value)
    fun char member => (wordOctet_of_inNumeral (inNumeral char member)).1
  have other : ∀ (letter : Char) (rest : List Char), ¬ InNumeral letter →
      renderNumber value ≠ letter :: rest := by
    intro letter rest outside written
    exact outside (inNumeral letter (by rw [written]; exact List.mem_cons_self))
  have outside : ¬ InNumeral 'n' ∧ ¬ InNumeral 't' ∧ ¬ InNumeral 'f' := by
    unfold InNumeral
    decide
  simp only [Tree.ofWord?, read]
  rw [if_neg (other _ _ outside.1), if_neg (other _ _ outside.2.1), if_neg (other _ _ outside.2.2)]

/-! ### Trees of values -/

mutual

/-- The tree that a reader finds in the text of a value. -/
def shape? : Json → Option Tree
  | .null => some .null
  | .bool value => some (.bool value)
  | .number value => (Numeral.read? (renderNumber value)).map .numeral
  | .string value => some (.string (bodyOf value))
  | .array items => (itemShapes? items).map .array
  | .object members => (memberShapes? members).map .object

def itemShapes? : List Json → Option (List Tree)
  | [] => some []
  | item :: rest => (shape? item).bind fun tree => (itemShapes? rest).map (tree :: ·)

/-- The trees of members, under their keys as written. -/
def memberShapes? : List (String × Json) → Option (List (Bytes × Tree))
  | [] => some []
  | (key, value) :: rest =>
      (shape? value).bind fun tree => (memberShapes? rest).map ((bodyOf key, tree) :: ·)

end

private theorem tokens_head (value : Json) :
    ∃ first rest, tokens value = first :: rest ∧ first ≠ .closeBracket := by
  cases value with
  | null => exact ⟨_, _, rfl, by decide⟩
  | bool truth => cases truth <;> exact ⟨_, _, rfl, by decide⟩
  | number value => exact ⟨_, _, rfl, fun same => by cases same⟩
  | string text => exact ⟨_, _, rfl, fun same => by cases same⟩
  | array items => exact ⟨_, _, rfl, by decide⟩
  | object members => exact ⟨_, _, rfl, by decide⟩

private theorem itemTokens_head (item : Json) (items : List Json) :
    ∃ first rest, itemTokens (item :: items) = first :: rest ∧ first ≠ .closeBracket := by
  obtain ⟨first, rest, same, other⟩ := tokens_head item
  cases items with
  | nil => exact ⟨first, rest, by rw [itemTokens, same], other⟩
  | cons next more =>
      exact ⟨first, rest ++ .comma :: itemTokens (next :: more),
        by rw [itemTokens_cons, same]; rfl, other⟩

private theorem run_firstItem (within : List Tree.Frame) {first : Token} (rest : List Token)
    (other : first ≠ .closeBracket) :
    Tree.run (.firstItem within) (first :: rest) =
      Tree.run (.value (.item [] :: within)) (first :: rest) := by
  cases first with
  | closeBracket => exact absurd rfl other
  | openBrace => rfl
  | closeBrace => rfl
  | openBracket => rfl
  | comma => rfl
  | colon => rfl
  | string body => rfl
  | word letters => rfl

private theorem run_word (within : List Tree.Frame) (letters : Bytes) (rest : List Token) :
    Tree.run (.value within) (.word letters :: rest) =
      (Tree.ofWord? letters).bind fun tree => Tree.run (.after tree within) rest := by
  simp only [Tree.run, Tree.step, Tree.beginValue]
  cases Tree.ofWord? letters <;> rfl

mutual

theorem run_tokens (value : Json) (within : List Tree.Frame) (rest : List Token) :
    Tree.run (.value within) (value.tokens ++ rest) =
      value.shape?.bind fun tree => Tree.run (.after tree within) rest := by
  cases value with
  | null => rfl
  | bool truth => cases truth <;> rfl
  | number value =>
      rw [tokens, List.singleton_append, run_word, ofWord?_number, shape?]
  | string text => rfl
  | array items =>
      rw [tokens, List.cons_append, List.append_assoc, List.singleton_append, shape?]
      cases items with
      | nil => rfl
      | cons item items =>
          obtain ⟨first, more, same, other⟩ := itemTokens_head item items
          have inside := run_itemTokens (item :: items) (List.cons_ne_nil _ _) [] within rest
          rw [same, List.cons_append, ← run_firstItem within _ other] at inside
          rw [same, List.cons_append]
          simp only [List.reverse_nil, List.nil_append] at inside
          rw [Option.bind_map]
          exact inside
  | object members =>
      rw [tokens, List.cons_append, List.append_assoc, List.singleton_append, shape?]
      cases members with
      | nil => rfl
      | cons member members =>
          have inside := run_memberTokens (member :: members) (List.cons_ne_nil _ _) []
            within rest
          simp only [List.reverse_nil, List.nil_append] at inside
          rw [Option.bind_map]
          refine Eq.trans ?_ inside
          cases members <;> rfl

theorem run_itemTokens (items : List Json) (filled : items ≠ []) (done : List Tree)
    (within : List Tree.Frame) (rest : List Token) :
    Tree.run (.value (.item done :: within)) (itemTokens items ++ .closeBracket :: rest) =
      (itemShapes? items).bind fun trees =>
        Tree.run (.after (.array (done.reverse ++ trees)) within) rest := by
  match items with
  | [] => exact absurd rfl filled
  | [item] =>
      rw [itemTokens, run_tokens item, itemShapes?, itemShapes?]
      cases shape? item with
      | none => rfl
      | some tree => simp [Tree.run, Tree.step]
  | item :: next :: more =>
      rw [itemTokens_cons, List.append_assoc, List.cons_append, run_tokens item, itemShapes?]
      cases shape? item with
      | none => rfl
      | some tree =>
          have inside := run_itemTokens (next :: more) (List.cons_ne_nil _ _) (tree :: done) within
            rest
          simp only [Option.bind_some, Tree.run, Tree.step, inside, List.reverse_cons,
            List.append_assoc, List.singleton_append, Option.bind_map]
          rfl

theorem run_memberTokens (members : List (String × Json)) (filled : members ≠ [])
    (done : List (Bytes × Tree)) (within : List Tree.Frame) (rest : List Token) :
    Tree.run (.key done within) (memberTokens members ++ .closeBrace :: rest) =
      (memberShapes? members).bind fun trees =>
        Tree.run (.after (.object (done.reverse ++ trees)) within) rest := by
  match members with
  | [] => exact absurd rfl filled
  | [(key, value)] =>
      rw [memberTokens, memberShapes?, memberShapes?]
      have inside := run_tokens value (.member done (bodyOf key) :: within) (.closeBrace :: rest)
      simp only [List.cons_append, Tree.run, Tree.step, inside]
      cases shape? value with
      | none => rfl
      | some tree => simp
  | (key, value) :: next :: more =>
      rw [memberTokens_cons, memberShapes?]
      have inside := run_tokens value (.member done (bodyOf key) :: within)
        (.comma :: (memberTokens (next :: more) ++ .closeBrace :: rest))
      simp only [List.cons_append, List.append_assoc, Tree.run, Tree.step, inside]
      cases shape? value with
      | none => rfl
      | some tree =>
          have behind := run_memberTokens (next :: more) (List.cons_ne_nil _ _)
            ((bodyOf key, tree) :: done) within rest
          simp only [Option.bind_some, behind, List.reverse_cons, List.append_assoc,
            List.singleton_append, Option.bind_map]
          rfl

end

/-- The text of a value is read as its tree. -/
theorem parse?_render (value : Json) :
    Tree.parse? (Utf8.encodeChars value.render) = value.shape? := by
  have read := run_tokens value [] []
  rw [List.append_nil] at read
  rw [Tree.parse?, scan?_render, Option.bind_some, Tree.ofTokens?, read]
  cases value.shape? <;> rfl

end Json

/-! ### Whole numbers read back -/

theorem toDigits_head_ne_zero (value : Nat) (positive : 0 < value) :
    ∃ digit rest, Nat.toDigits 10 value = digit :: rest ∧ digit ≠ '0' := by
  induction value using Nat.strongRecOn with
  | ind value ih =>
      by_cases small : value < 10
      · refine ⟨value.digitChar, [], Nat.toDigits_of_lt_base small, ?_⟩
        intro zero
        have digits : ∀ other < 10, 0 < other → other.digitChar ≠ '0' := by decide
        exact digits value small positive zero
      · obtain ⟨digit, rest, same, other⟩ := ih (value / 10) (by omega) (by omega)
        refine ⟨digit, rest ++ [(value % 10).digitChar], ?_, other⟩
        rw [Nat.toDigits_of_base_le (by decide) (by omega), same, List.cons_append]

namespace Numeral

def ofInt (value : Int) : Numeral := ⟨decide (value < 0), Nat.toDigits 10 value.natAbs, [], none⟩

private theorem unsigned?_toDigits (negative : Bool) (value : Nat) :
    unsigned? negative (Nat.toDigits 10 value) =
      some ⟨negative, Nat.toDigits 10 value, [], none⟩ := by
  have digits : ∀ char ∈ Nat.toDigits 10 value, char.isDigit = true :=
    fun char member => Nat.isDigit_of_mem_toDigits (by decide) (by decide) member
  have whole : (Nat.toDigits 10 value).takeWhile Char.isDigit = Nat.toDigits 10 value :=
    List.takeWhile_eq_self_iff.mpr digits
  have behind : (Nat.toDigits 10 value).dropWhile Char.isDigit = [] :=
    List.dropWhile_eq_nil_iff.mpr digits
  simp only [unsigned?, whole, behind, fraction?, exponent?, bind, Option.bind_some]
  rcases Nat.eq_zero_or_pos value with rfl | positive
  · rfl
  · obtain ⟨digit, rest, same, other⟩ := toDigits_head_ne_zero value positive
    rw [same]
    split
    · rename_i empty
      cases empty
    · rename_i zero
      cases zero
      exact absurd rfl other
    · rfl

theorem read?_renderInt (value : Int) : read? (Json.renderInt value) = some (ofInt value) := by
  unfold Json.renderInt
  by_cases negative : value < 0
  · rw [if_pos negative, read?, unsigned?_toDigits, ofInt, decide_eq_true negative]
  · have sign : ∀ rest, Nat.toDigits 10 value.natAbs ≠ '-' :: rest := by
      intro rest same
      have digit : ('-').isDigit = true := Nat.isDigit_of_mem_toDigits (b := 10)
        (n := value.natAbs) (by decide) (by decide) (by rw [same]; exact List.mem_cons_self)
      cases digit
    rw [if_neg negative, read?.eq_2 _ sign, unsigned?_toDigits, ofInt, decide_eq_false negative]

theorem number?_ofInt {value : Int} (low : -0x8000000000000000 ≤ value)
    (high : value ≤ (largestWord : Int)) : (ofInt value).number? = some (.int value) := by
  unfold number? ofInt
  simp only [Nat.ofDigitChars_ten_toDigits]
  by_cases negative : value < 0
  · have magnitude : 0 < value.natAbs ∧ value.natAbs ≤ 0x8000000000000000 := by omega
    have same : -(value.natAbs : Int) = value := by omega
    simp only [negative, decide_true]
    rw [same]
    simp [magnitude.1, magnitude.2]
  · have magnitude : value.natAbs ≤ largestWord := by omega
    have same : (value.natAbs : Int) = value := by omega
    simp only [negative, decide_false]
    rw [same]
    simp [magnitude]

end Numeral

namespace Json

/-! ### Typed reading -/

theorem text?_bodyOf (text : String) : text? (bodyOf text) = some text := by
  rw [bodyOf, text?_encodeChars_escape, String.ofList_toList]

namespace Tree

theorem text?_shape (text : String) : (Tree.string (bodyOf text)).text? = some text :=
  text?_bodyOf text

theorem int64?_shape (value : Int64) :
    (Tree.numeral (.ofInt value.toInt)).int64? = some value := by
  have low := Int64.le_toInt value
  have high := Int64.toInt_lt value
  have read : (Numeral.ofInt value.toInt).number? = some (.int value.toInt) :=
    Numeral.number?_ofInt (by omega) (by unfold largestWord; omega)
  simp only [int64?, read]
  rw [if_pos (by omega), Int64.ofInt_toInt]

end Tree

end Json

end Turnstile
