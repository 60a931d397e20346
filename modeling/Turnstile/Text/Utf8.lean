import Turnstile.Bytes
set_option autoImplicit false

/-! The octet form of a text in UTF-8 and the strict reading of it back. A
reading that fails names the octet where the first ill-formed sequence begins
and how many octets of it could have begun a well-formed one. -/

namespace Turnstile.Utf8

def encodeChars (text : List Char) : Bytes := text.flatMap String.utf8EncodeChar

def encode (text : String) : Bytes := encodeChars text.toList

inductive Fault where
  /-- The sequence that begins at `index` goes wrong after `size` octets. -/
  | invalid (size index : Nat)
  /-- The octets end within the sequence that begins at `index`. -/
  | incomplete (index : Nat)
  deriving DecidableEq, Repr

namespace Fault

def message : Fault → String
  | invalid size index =>
      "invalid utf-8 sequence of " ++ toString size ++ " bytes from index " ++ toString index
  | incomplete index => "incomplete utf-8 byte sequence from index " ++ toString index

end Fault

/-- What a leading octet announces: the number of octets that continue it, the
range of the first of them, and the bits it contributes. -/
structure Lead where
  continuations : Nat
  low : Nat
  high : Nat
  bits : Nat
  deriving DecidableEq, Repr

/-- The announcement of a leading octet beyond ASCII. The narrowed ranges keep
out overlong forms, surrogates and numbers beyond the last code point. -/
def lead? (octet : Nat) : Option Lead :=
  if octet < 0xc2 then none
  else if octet ≤ 0xdf then some ⟨1, 0x80, 0xbf, octet % 0x20⟩
  else if octet = 0xe0 then some ⟨2, 0xa0, 0xbf, 0⟩
  else if octet = 0xed then some ⟨2, 0x80, 0x9f, 0xd⟩
  else if octet ≤ 0xef then some ⟨2, 0x80, 0xbf, octet % 0x10⟩
  else if octet = 0xf0 then some ⟨3, 0x90, 0xbf, 0⟩
  else if octet ≤ 0xf3 then some ⟨3, 0x80, 0xbf, octet % 0x08⟩
  else if octet = 0xf4 then some ⟨3, 0x80, 0x8f, 4⟩
  else none

def continues (octet : Nat) : Bool := 0x80 ≤ octet && octet ≤ 0xbf

def decodeFrom : (index : Nat) → Bytes → Except Fault (List Char)
  | _, [] => .ok []
  | index, first :: rest =>
      if first.toNat < 0x80 then
        (decodeFrom (index + 1) rest).map (Char.ofNat first.toNat :: ·)
      else match lead? first.toNat with
        | none => .error (.invalid 1 index)
        | some lead =>
            match rest with
            | [] => .error (.incomplete index)
            | second :: rest =>
                if second.toNat < lead.low ∨ lead.high < second.toNat then
                  .error (.invalid 1 index)
                else
                  let two := lead.bits * 0x40 + second.toNat % 0x40
                  if lead.continuations = 1 then
                    (decodeFrom (index + 2) rest).map (Char.ofNat two :: ·)
                  else match rest with
                    | [] => .error (.incomplete index)
                    | third :: rest =>
                        if !continues third.toNat then .error (.invalid 2 index)
                        else
                          let three := two * 0x40 + third.toNat % 0x40
                          if lead.continuations = 2 then
                            (decodeFrom (index + 3) rest).map (Char.ofNat three :: ·)
                          else match rest with
                            | [] => .error (.incomplete index)
                            | fourth :: rest =>
                                if !continues fourth.toNat then .error (.invalid 3 index)
                                else
                                  let four := three * 0x40 + fourth.toNat % 0x40
                                  (decodeFrom (index + 4) rest).map (Char.ofNat four :: ·)

def decodeChars (bytes : Bytes) : Except Fault (List Char) := decodeFrom 0 bytes

def decode (bytes : Bytes) : Except Fault String := (decodeChars bytes).map String.ofList

def decode? (bytes : Bytes) : Option String := (decode bytes).toOption

theorem lead?_two (octet : Nat) (low : 0xc2 ≤ octet) (high : octet ≤ 0xdf) :
    lead? octet = some ⟨1, 0x80, 0xbf, octet % 0x20⟩ := by
  have notBelow : ¬ octet < 0xc2 := by omega
  simp [lead?, notBelow, high]

theorem lead?_three (octet : Nat) (low : 0xe0 ≤ octet) (high : octet ≤ 0xef) :
    lead? octet = some ⟨2, if octet = 0xe0 then 0xa0 else 0x80,
      if octet = 0xed then 0x9f else 0xbf, octet % 0x10⟩ := by
  have notBelow : ¬ octet < 0xc2 := by omega
  have notTwo : ¬ octet ≤ 0xdf := by omega
  by_cases least : octet = 0xe0
  · subst least; rfl
  · by_cases surrogate : octet = 0xed
    · subst surrogate; rfl
    · simp [lead?, notBelow, notTwo, least, surrogate, high]

theorem lead?_four (octet : Nat) (low : 0xf0 ≤ octet) (high : octet ≤ 0xf4) :
    lead? octet = some ⟨3, if octet = 0xf0 then 0x90 else 0x80,
      if octet = 0xf4 then 0x8f else 0xbf, octet % 0x08⟩ := by
  have leads : octet = 0xf0 ∨ octet = 0xf1 ∨ octet = 0xf2 ∨ octet = 0xf3 ∨ octet = 0xf4 := by
    omega
  rcases leads with same | same | same | same | same <;> subst same <;> rfl

theorem decodeFrom_one (index : Nat) {first : UInt8} (rest : Bytes) (small : first.toNat < 0x80) :
    decodeFrom index (first :: rest) =
      (decodeFrom (index + 1) rest).map (Char.ofNat first.toNat :: ·) := by
  rw [decodeFrom.eq_def]
  simp only [small, if_true]

theorem decodeFrom_two (index : Nat) {first second : UInt8} (rest : Bytes) {lead : Lead}
    (large : 0x80 ≤ first.toNat) (found : lead? first.toNat = some lead)
    (count : lead.continuations = 1)
    (inRange : lead.low ≤ second.toNat ∧ second.toNat ≤ lead.high) :
    decodeFrom index (first :: second :: rest) =
      (decodeFrom (index + 2) rest).map
        (Char.ofNat (lead.bits * 0x40 + second.toNat % 0x40) :: ·) := by
  have notSmall : ¬ first.toNat < 0x80 := by omega
  have notOutside : ¬ (second.toNat < lead.low ∨ lead.high < second.toNat) := by omega
  rw [decodeFrom.eq_def]
  simp only [notSmall, found, notOutside, count, if_false, if_true]

theorem decodeFrom_three (index : Nat) {first second third : UInt8} (rest : Bytes) {lead : Lead}
    (large : 0x80 ≤ first.toNat) (found : lead? first.toNat = some lead)
    (count : lead.continuations = 2)
    (inRange : lead.low ≤ second.toNat ∧ second.toNat ≤ lead.high)
    (thirdContinues : continues third.toNat = true) :
    decodeFrom index (first :: second :: third :: rest) =
      (decodeFrom (index + 3) rest).map
        (Char.ofNat ((lead.bits * 0x40 + second.toNat % 0x40) * 0x40 + third.toNat % 0x40) :: ·) := by
  have notSmall : ¬ first.toNat < 0x80 := by omega
  have notOutside : ¬ (second.toNat < lead.low ∨ lead.high < second.toNat) := by omega
  rw [decodeFrom.eq_def]
  simp [notSmall, found, notOutside, count, thirdContinues]

theorem decodeFrom_four (index : Nat) {first second third fourth : UInt8} (rest : Bytes)
    {lead : Lead} (large : 0x80 ≤ first.toNat) (found : lead? first.toNat = some lead)
    (count : lead.continuations = 3)
    (inRange : lead.low ≤ second.toNat ∧ second.toNat ≤ lead.high)
    (thirdContinues : continues third.toNat = true)
    (fourthContinues : continues fourth.toNat = true) :
    decodeFrom index (first :: second :: third :: fourth :: rest) =
      (decodeFrom (index + 4) rest).map
        (Char.ofNat (((lead.bits * 0x40 + second.toNat % 0x40) * 0x40 + third.toNat % 0x40) * 0x40 +
          fourth.toNat % 0x40) :: ·) := by
  have notSmall : ¬ first.toNat < 0x80 := by omega
  have notOutside : ¬ (second.toNat < lead.low ∨ lead.high < second.toNat) := by omega
  rw [decodeFrom.eq_def]
  simp [notSmall, found, notOutside, count, thirdContinues, fourthContinues]

theorem ofNat_eq {char : Char} {point : Nat} (equality : point = char.toNat) :
    Char.ofNat point = char := by
  rw [equality, Char.ofNat_toNat]

theorem toNat_ofNat_octet {value : Nat} (small : value < 0x100) :
    (UInt8.ofNat value).toNat = value := by
  rw [UInt8.toNat_ofNat']
  omega

theorem decodeFrom_encodeChar (index : Nat) (char : Char) (rest : Bytes) :
    decodeFrom index (String.utf8EncodeChar char ++ rest) =
      (decodeFrom (index + (String.utf8EncodeChar char).length) rest).map (char :: ·) := by
  have valid : char.toNat < 0xd800 ∨ (0xdfff < char.toNat ∧ char.toNat < 0x110000) := char.valid
  have point : char.val.toNat = char.toNat := rfl
  unfold String.utf8EncodeChar
  simp only [point]
  split
  · rename_i small
    have octet : (UInt8.ofNat char.toNat).toNat = char.toNat := toNat_ofNat_octet (by omega)
    have low : (UInt8.ofNat char.toNat).toNat < 0x80 := by omega
    rw [List.singleton_append, decodeFrom_one index rest low, ofNat_eq octet, List.length_singleton]
  · split
    · rename_i above small
      have first : (UInt8.ofNat (char.toNat / 64 % 32 + 192)).toNat = char.toNat / 64 + 192 := by
        rw [toNat_ofNat_octet (by omega)]; omega
      have second : (UInt8.ofNat (char.toNat % 64 + 128)).toNat = char.toNat % 64 + 128 :=
        toNat_ofNat_octet (by omega)
      have found := lead?_two (UInt8.ofNat (char.toNat / 64 % 32 + 192)).toNat
        (by omega) (by omega)
      refine (decodeFrom_two index rest (by omega) found rfl ?_).trans ?_
      · simp only [second]; omega
      · rw [ofNat_eq]
        · rfl
        · simp only [first, second]; omega
    · split
      · rename_i small
        have first : (UInt8.ofNat (char.toNat / 4096 % 16 + 224)).toNat =
            char.toNat / 4096 + 224 := by
          rw [toNat_ofNat_octet (by omega)]; omega
        have second : (UInt8.ofNat (char.toNat / 64 % 64 + 128)).toNat =
            char.toNat / 64 % 64 + 128 := toNat_ofNat_octet (by omega)
        have third : (UInt8.ofNat (char.toNat % 64 + 128)).toNat = char.toNat % 64 + 128 :=
          toNat_ofNat_octet (by omega)
        have found := lead?_three (UInt8.ofNat (char.toNat / 4096 % 16 + 224)).toNat
          (by omega) (by omega)
        refine (decodeFrom_three index rest (by omega) found rfl ?_ ?_).trans ?_
        · simp only [first, second]; split <;> split <;> omega
        · simp only [third, continues, Bool.and_eq_true, decide_eq_true_eq]; omega
        · rw [ofNat_eq]
          · rfl
          · simp only [first, second, third]; omega
      · rename_i small
        have first : (UInt8.ofNat (char.toNat / 262144 % 8 + 240)).toNat =
            char.toNat / 262144 + 240 := by
          rw [toNat_ofNat_octet (by omega)]; omega
        have second : (UInt8.ofNat (char.toNat / 4096 % 64 + 128)).toNat =
            char.toNat / 4096 % 64 + 128 := toNat_ofNat_octet (by omega)
        have third : (UInt8.ofNat (char.toNat / 64 % 64 + 128)).toNat =
            char.toNat / 64 % 64 + 128 := toNat_ofNat_octet (by omega)
        have fourth : (UInt8.ofNat (char.toNat % 64 + 128)).toNat = char.toNat % 64 + 128 :=
          toNat_ofNat_octet (by omega)
        have found := lead?_four (UInt8.ofNat (char.toNat / 262144 % 8 + 240)).toNat
          (by omega) (by omega)
        refine (decodeFrom_four index rest (by omega) found rfl ?_ ?_ ?_).trans ?_
        · simp only [first, second]; split <;> split <;> omega
        · simp only [third, continues, Bool.and_eq_true, decide_eq_true_eq]; omega
        · simp only [fourth, continues, Bool.and_eq_true, decide_eq_true_eq]; omega
        · rw [ofNat_eq]
          · rfl
          · simp only [first, second, third, fourth]; omega

theorem decodeFrom_encodeChars (index : Nat) (text : List Char) :
    decodeFrom index (encodeChars text) = .ok text := by
  induction text generalizing index with
  | nil => rfl
  | cons char rest inductionHypothesis =>
      have split : encodeChars (char :: rest) = String.utf8EncodeChar char ++ encodeChars rest :=
        List.flatMap_cons
      rw [split, decodeFrom_encodeChar, inductionHypothesis]
      rfl

theorem decodeChars_encodeChars (text : List Char) : decodeChars (encodeChars text) = .ok text :=
  decodeFrom_encodeChars 0 text

end Turnstile.Utf8
