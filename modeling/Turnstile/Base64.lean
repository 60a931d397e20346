import Turnstile.Bytes
set_option autoImplicit false

/-! Base 64: three octets written as four symbols. Two written forms are used:
the padded form of key files, whose reading reports the first offending symbol,
and the unpadded form of credentials, which is safe inside a URL. Both forms
are canonical: the bits that the last symbol has to spare must be zero. -/

namespace Turnstile.Base64

def sextets : Bytes → List Nat
  | [] => []
  | [a] => [a.toNat / 4, a.toNat % 4 * 16]
  | [a, b] => [a.toNat / 4, a.toNat % 4 * 16 + b.toNat / 16, b.toNat % 16 * 4]
  | a :: b :: c :: rest =>
      (a.toNat / 4) :: (a.toNat % 4 * 16 + b.toNat / 16) ::
        (b.toNat % 16 * 4 + c.toNat / 64) :: (c.toNat % 64) :: sextets rest

def octets? : List Nat → Option Bytes
  | [] => some []
  | [_] => none
  | [p, q] => if q % 16 = 0 then some [UInt8.ofNat (p * 4 + q / 16)] else none
  | [p, q, r] =>
      if r % 4 = 0 then
        some [UInt8.ofNat (p * 4 + q / 16), UInt8.ofNat (q % 16 * 16 + r / 4)]
      else none
  | p :: q :: r :: s :: rest =>
      (octets? rest).map fun bytes =>
        UInt8.ofNat (p * 4 + q / 16) :: UInt8.ofNat (q % 16 * 16 + r / 4) ::
          UInt8.ofNat (r % 4 * 64 + s) :: bytes

structure Alphabet where
  symbol62 : Char
  symbol63 : Char
  deriving DecidableEq, Repr

def standard : Alphabet := ⟨'+', '/'⟩

def urlSafe : Alphabet := ⟨'-', '_'⟩

namespace Alphabet

def symbol (alphabet : Alphabet) (value : Nat) : Char :=
  if value < 26 then Char.ofNat (65 + value)
  else if value < 52 then Char.ofNat (71 + value)
  else if value < 62 then Char.ofNat (value - 4)
  else if value = 62 then alphabet.symbol62
  else alphabet.symbol63

def value? (alphabet : Alphabet) (symbol : Char) : Option Nat :=
  let point := symbol.toNat
  if 65 ≤ point ∧ point ≤ 90 then some (point - 65)
  else if 97 ≤ point ∧ point ≤ 122 then some (point - 71)
  else if 48 ≤ point ∧ point ≤ 57 then some (point + 4)
  else if symbol = alphabet.symbol62 then some 62
  else if symbol = alphabet.symbol63 then some 63
  else none

end Alphabet

def values? (alphabet : Alphabet) : List Char → Option (List Nat)
  | [] => some []
  | symbol :: rest => do
      let value ← alphabet.value? symbol
      let values ← values? alphabet rest
      return value :: values

def encodeUrl (bytes : Bytes) : List Char := (sextets bytes).map urlSafe.symbol

def decodeUrl? (text : List Char) : Option Bytes := (values? urlSafe text).bind octets?

def padding (symbols : Nat) : List Char := List.replicate ((4 - symbols % 4) % 4) '='

def encodePadded (bytes : Bytes) : List Char :=
  let symbols := (sextets bytes).map standard.symbol
  symbols ++ padding symbols.length

inductive Fault where
  /-- An octet that is no symbol, or padding out of place. -/
  | symbol (octet : UInt8) (offset : Nat)
  /-- The last symbol has spare bits that are not zero. -/
  | lastSymbol (octet : UInt8) (offset : Nat)
  | size (symbols : Nat)
  | padding
  deriving DecidableEq, Repr

namespace Fault

def message : Fault → String
  | symbol octet offset =>
      "Invalid symbol " ++ toString octet.toNat ++ ", offset " ++ toString offset ++ "."
  | lastSymbol octet offset =>
      "Invalid last symbol " ++ toString octet.toNat ++ ", offset " ++ toString offset ++ "."
  | size symbols => "Invalid input length: " ++ toString symbols
  | padding => "Invalid padding"

end Fault

def pad : UInt8 := 61

def valueAt (offset : Nat) (octet : UInt8) : Except Fault Nat :=
  match standard.value? (Char.ofNat octet.toNat) with
  | some value => .ok value
  | none => .error (.symbol octet offset)

/-- The end of a padded form after the `values` (newest first) and `pads` signs
of padding seen since the last complete group. -/
def decodeTail (start : Nat) : (values : List Nat) → (pads : Nat) → (last : UInt8) → Bytes →
    Except Fault Bytes
  | values, pads, last, [] =>
      if values.length < 2 then .error (.size (start + values.length))
      else if (values.length + pads) % 4 ≠ 0 then .error .padding
      else match octets? values.reverse with
        | some bytes => .ok bytes
        | none => .error (.lastSymbol last (start + values.length - 1))
  | values, pads, last, octet :: rest =>
      if octet = pad then
        if values.length + pads < 2 then .error (.symbol octet (start + values.length + pads))
        else decodeTail start values (pads + 1) last rest
      else if 0 < pads then .error (.symbol pad (start + values.length))
      else match valueAt (start + values.length) octet with
        | .error fault => .error fault
        | .ok value => decodeTail start (value :: values) pads octet rest

/-- The octets of a padded form that starts at `offset` of the whole. Padding is
looked for only in the last group. -/
def decodeGroups : (offset : Nat) → Bytes → Except Fault Bytes
  | _, [] => .ok []
  | offset, a :: b :: c :: d :: e :: rest => do
      let p ← valueAt offset a
      let q ← valueAt (offset + 1) b
      let r ← valueAt (offset + 2) c
      let s ← valueAt (offset + 3) d
      let bytes ← decodeGroups (offset + 4) (e :: rest)
      return UInt8.ofNat (p * 4 + q / 16) :: UInt8.ofNat (q % 16 * 16 + r / 4) ::
        UInt8.ofNat (r % 4 * 64 + s) :: bytes
  | offset, tail => decodeTail offset [] 0 0 tail

/-- The octets of a padded form. A single octet after the last complete group
is looked at before all else. -/
def decodePadded (text : Bytes) : Except Fault Bytes :=
  match text.getLast? with
  | some last =>
      if text.length % 4 = 1 ∧ last ≠ pad ∧ (standard.value? (Char.ofNat last.toNat)).isNone then
        .error (.symbol last (text.length - 1))
      else decodeGroups 0 text
  | none => .ok []

theorem ofNat_eq_of_toNat {octet : UInt8} {value : Nat} (equality : value = octet.toNat) :
    UInt8.ofNat value = octet := by
  rw [equality, UInt8.ofNat_toNat]

theorem octets?_sextets (bytes : Bytes) : octets? (sextets bytes) = some bytes := by
  induction bytes using sextets.induct with
  | case1 => rfl
  | case2 a =>
      have aBound := a.toNat_lt
      have spare : a.toNat % 4 * 16 % 16 = 0 := by omega
      have first : a.toNat / 4 * 4 + a.toNat % 4 * 16 / 16 = a.toNat := by omega
      simp only [sextets, octets?, spare, if_true, ofNat_eq_of_toNat first]
  | case3 a b =>
      have bBound := b.toNat_lt
      have spare : b.toNat % 16 * 4 % 4 = 0 := by omega
      have first : a.toNat / 4 * 4 + (a.toNat % 4 * 16 + b.toNat / 16) / 16 = a.toNat := by omega
      have second : (a.toNat % 4 * 16 + b.toNat / 16) % 16 * 16 + b.toNat % 16 * 4 / 4 =
          b.toNat := by omega
      simp only [sextets, octets?, spare, if_true, ofNat_eq_of_toNat first, ofNat_eq_of_toNat second]
  | case4 a b c rest inductionHypothesis =>
      have bBound := b.toNat_lt
      have cBound := c.toNat_lt
      have first : a.toNat / 4 * 4 + (a.toNat % 4 * 16 + b.toNat / 16) / 16 = a.toNat := by omega
      have second : (a.toNat % 4 * 16 + b.toNat / 16) % 16 * 16 +
          (b.toNat % 16 * 4 + c.toNat / 64) / 4 = b.toNat := by omega
      have third : (b.toNat % 16 * 4 + c.toNat / 64) % 4 * 64 + c.toNat % 64 = c.toNat := by omega
      simp only [sextets, octets?, inductionHypothesis, Option.map_some, ofNat_eq_of_toNat first,
        ofNat_eq_of_toNat second, ofNat_eq_of_toNat third]

theorem sextets_lt (bytes : Bytes) : ∀ value ∈ sextets bytes, value < 64 := by
  induction bytes using sextets.induct with
  | case1 => simp [sextets]
  | case2 a =>
      have aBound := a.toNat_lt
      simp [sextets]
      omega
  | case3 a b =>
      have aBound := a.toNat_lt
      have bBound := b.toNat_lt
      simp [sextets]
      omega
  | case4 a b c rest inductionHypothesis =>
      have aBound := a.toNat_lt
      have bBound := b.toNat_lt
      have cBound := c.toNat_lt
      intro value member
      simp only [sextets, List.mem_cons] at member
      rcases member with same | same | same | same | inRest
      · omega
      · omega
      · omega
      · omega
      · exact inductionHypothesis value inRest

theorem value?_symbol_urlSafe :
    ∀ value < 64, urlSafe.value? (urlSafe.symbol value) = some value := by
  decide

theorem values?_map_symbol (values : List Nat) (bounded : ∀ value ∈ values, value < 64) :
    values? urlSafe (values.map urlSafe.symbol) = some values := by
  induction values with
  | nil => rfl
  | cons value rest inductionHypothesis =>
      have head := value?_symbol_urlSafe value (bounded value (by simp))
      have tail := inductionHypothesis fun other member => bounded other (by simp [member])
      simp [values?, head, tail]

theorem decodeUrl?_encodeUrl (bytes : Bytes) : decodeUrl? (encodeUrl bytes) = some bytes := by
  simp [decodeUrl?, encodeUrl, values?_map_symbol _ (sextets_lt bytes), octets?_sextets]

end Turnstile.Base64
