import Turnstile.Base64
import Turnstile.Proofs.Text.Utf8
set_option autoImplicit false

/-! Base 64 is canonical: octets have one written form alone. What is read without padding is
therefore exactly the form that would be written, and every padded form is read back. -/

namespace Turnstile.Base64

private theorem symbol_of_value? {symbol : Char} {value : Nat}
    (read : urlSafe.value? symbol = some value) :
    value < 64 ∧ urlSafe.symbol value = symbol := by
  unfold Alphabet.value? at read
  simp only at read
  split at read
  · rename_i upper
    injection read with same
    refine ⟨by omega, ?_⟩
    unfold Alphabet.symbol
    rw [if_pos (by omega), ← same, show 65 + (symbol.toNat - 65) = symbol.toNat by omega,
      Char.ofNat_toNat]
  · split at read
    · rename_i lower
      injection read with same
      refine ⟨by omega, ?_⟩
      unfold Alphabet.symbol
      rw [if_neg (by omega), if_pos (by omega), ← same,
        show 71 + (symbol.toNat - 71) = symbol.toNat by omega, Char.ofNat_toNat]
    · split at read
      · rename_i digit
        injection read with same
        refine ⟨by omega, ?_⟩
        unfold Alphabet.symbol
        rw [if_neg (by omega), if_neg (by omega), if_pos (by omega), ← same,
          show symbol.toNat + 4 - 4 = symbol.toNat by omega, Char.ofNat_toNat]
      · split at read
        · rename_i first
          injection read with same
          subst same
          exact ⟨by decide, first.symm⟩
        · split at read
          · rename_i second
            injection read with same
            subst same
            exact ⟨by decide, second.symm⟩
          · cases read

private theorem map_symbol_of_values? {text : List Char} {values : List Nat}
    (read : values? urlSafe text = some values) :
    values.map urlSafe.symbol = text ∧ ∀ value ∈ values, value < 64 := by
  induction text generalizing values with
  | nil =>
      cases read
      exact ⟨rfl, fun value member => by cases member⟩
  | cons symbol text ih =>
      simp only [values?, bind, Option.bind_eq_some_iff, pure, Option.some.injEq] at read
      obtain ⟨value, found, rest, others, rfl⟩ := read
      obtain ⟨small, written⟩ := symbol_of_value? found
      obtain ⟨same, bounded⟩ := ih others
      refine ⟨by rw [List.map_cons, written, same], ?_⟩
      intro other member
      rcases List.mem_cons.mp member with rfl | inside
      · exact small
      · exact bounded other inside

private theorem toNat_ofNat_of_lt {value : Nat} (small : value < 256) :
    (UInt8.ofNat value).toNat = value := by
  rw [UInt8.toNat_ofNat']
  omega

private theorem sextets_of_octets? {values : List Nat} {bytes : Bytes}
    (bounded : ∀ value ∈ values, value < 64) (read : octets? values = some bytes) :
    sextets bytes = values := by
  induction values using octets?.induct generalizing bytes with
  | case1 =>
      cases read
      rfl
  | case2 value => cases read
  | case3 p q spare =>
      have pBound := bounded p (by simp)
      have qBound := bounded q (by simp)
      rw [octets?, if_pos spare] at read
      injection read with same
      subst same
      have first : (UInt8.ofNat (p * 4 + q / 16)).toNat = p * 4 + q / 16 :=
        toNat_ofNat_of_lt (by omega)
      simp only [sextets, first, List.cons.injEq, and_true]
      omega
  | case4 p q spare =>
      rw [octets?, if_neg spare] at read
      cases read
  | case5 p q r spare =>
      have pBound := bounded p (by simp)
      have qBound := bounded q (by simp)
      have rBound := bounded r (by simp)
      rw [octets?, if_pos spare] at read
      injection read with same
      subst same
      have first : (UInt8.ofNat (p * 4 + q / 16)).toNat = p * 4 + q / 16 :=
        toNat_ofNat_of_lt (by omega)
      have second : (UInt8.ofNat (q % 16 * 16 + r / 4)).toNat = q % 16 * 16 + r / 4 :=
        toNat_ofNat_of_lt (by omega)
      simp only [sextets, first, second, List.cons.injEq, and_true]
      omega
  | case6 p q r spare =>
      rw [octets?, if_neg spare] at read
      cases read
  | case7 p q r s rest ih =>
      have pBound := bounded p (by simp)
      have qBound := bounded q (by simp)
      have rBound := bounded r (by simp)
      have sBound := bounded s (by simp)
      rw [octets?, Option.map_eq_some_iff] at read
      obtain ⟨more, others, same⟩ := read
      subst same
      have first : (UInt8.ofNat (p * 4 + q / 16)).toNat = p * 4 + q / 16 :=
        toNat_ofNat_of_lt (by omega)
      have second : (UInt8.ofNat (q % 16 * 16 + r / 4)).toNat = q % 16 * 16 + r / 4 :=
        toNat_ofNat_of_lt (by omega)
      have third : (UInt8.ofNat (r % 4 * 64 + s)).toNat = r % 4 * 64 + s :=
        toNat_ofNat_of_lt (by omega)
      have behind := ih (fun value member => bounded value (by simp [member])) others
      simp only [sextets, first, second, third, behind, List.cons.injEq, and_true]
      omega

/-- An unpadded form that is read is the one that the octets are written in. -/
theorem encodeUrl_of_decodeUrl? {text : List Char} {bytes : Bytes}
    (read : decodeUrl? text = some bytes) : encodeUrl bytes = text := by
  rw [decodeUrl?, Option.bind_eq_some_iff] at read
  obtain ⟨values, symbols, groups⟩ := read
  obtain ⟨written, bounded⟩ := map_symbol_of_values? symbols
  rw [encodeUrl, sextets_of_octets? bounded groups, written]

/-! ### Padded forms -/

private def symbolOctet (value : Nat) : UInt8 := UInt8.ofNat (standard.symbol value).toNat

private theorem symbolOctet_facts : ∀ value < 64,
    standard.value? (Char.ofNat (symbolOctet value).toNat) = some value ∧
      symbolOctet value ≠ pad ∧ (standard.symbol value).toNat < 0x80 := by
  decide

private theorem valueAt_symbolOctet (offset : Nat) {value : Nat} (small : value < 64) :
    valueAt offset (symbolOctet value) = .ok value := by
  rw [valueAt, (symbolOctet_facts value small).1]

private theorem encodeChars_symbol {value : Nat} (rest : List Char) (small : value < 64) :
    Utf8.encodeChars (standard.symbol value :: rest) =
      symbolOctet value :: Utf8.encodeChars rest := by
  rw [Utf8.encodeChars_cons, Utf8.encodeChar_of_small (symbolOctet_facts value small).2.2]
  rfl

private theorem decodeTail_symbol (start : Nat) (values : List Nat) (last : UInt8) (rest : Bytes)
    {value : Nat} (small : value < 64) :
    decodeTail start values 0 last (symbolOctet value :: rest) =
      decodeTail start (value :: values) 0 (symbolOctet value) rest := by
  rw [decodeTail, if_neg (symbolOctet_facts value small).2.1, if_neg (Nat.lt_irrefl 0),
    valueAt_symbolOctet _ small]

private theorem decodeTail_pad (start : Nat) (values : List Nat) (pads : Nat) (last : UInt8)
    (rest : Bytes) (enough : 2 ≤ values.length + pads) :
    decodeTail start values pads last (pad :: rest) =
      decodeTail start values (pads + 1) last rest := by
  rw [decodeTail, if_pos rfl, if_neg (by omega)]

private theorem decodeTail_end (start : Nat) (values : List Nat) (pads : Nat) (last : UInt8)
    {bytes : Bytes} (enough : 2 ≤ values.length) (whole : (values.length + pads) % 4 = 0)
    (read : octets? values.reverse = some bytes) :
    decodeTail start values pads last [] = .ok bytes := by
  rw [decodeTail, if_neg (by omega), if_neg (by omega), read]

private theorem padding_add_four (symbols : Nat) : padding (symbols + 4) = padding symbols := by
  rw [padding, padding, Nat.add_mod_right]

private theorem encodePadded_group (a b c : UInt8) (rest : Bytes) :
    encodePadded (a :: b :: c :: rest) =
      standard.symbol (a.toNat / 4) :: standard.symbol (a.toNat % 4 * 16 + b.toNat / 16) ::
        standard.symbol (b.toNat % 16 * 4 + c.toNat / 64) :: standard.symbol (c.toNat % 64) ::
          encodePadded rest := by
  simp only [encodePadded, sextets, List.map_cons, List.length_cons, List.length_map,
    List.cons_append]
  rw [show (sextets rest).length + 1 + 1 + 1 + 1 = (sextets rest).length + 4 from rfl,
    padding_add_four]

/-! The octets of a padded form, as the groups of the octets that it is made of. -/

private theorem paddedOctets_one (a : UInt8) :
    Utf8.encodeChars (encodePadded [a]) =
      [symbolOctet (a.toNat / 4), symbolOctet (a.toNat % 4 * 16), pad, pad] := by
  have bounded := sextets_lt [a]
  rw [sextets] at bounded
  rw [encodePadded, sextets, List.map_cons, List.map_cons, List.map_nil, List.cons_append,
    List.cons_append, List.nil_append, encodeChars_symbol _ (bounded _ (by simp)),
    encodeChars_symbol _ (bounded _ (by simp))]
  rfl

private theorem paddedOctets_two (a b : UInt8) :
    Utf8.encodeChars (encodePadded [a, b]) =
      [symbolOctet (a.toNat / 4), symbolOctet (a.toNat % 4 * 16 + b.toNat / 16),
        symbolOctet (b.toNat % 16 * 4), pad] := by
  have bounded := sextets_lt [a, b]
  rw [sextets] at bounded
  rw [encodePadded, sextets, List.map_cons, List.map_cons, List.map_cons, List.map_nil,
    List.cons_append, List.cons_append, List.cons_append, List.nil_append,
    encodeChars_symbol _ (bounded _ (by simp)), encodeChars_symbol _ (bounded _ (by simp)),
    encodeChars_symbol _ (bounded _ (by simp))]
  rfl

private theorem paddedOctets_group (a b c : UInt8) (rest : Bytes) :
    Utf8.encodeChars (encodePadded (a :: b :: c :: rest)) =
      symbolOctet (a.toNat / 4) :: symbolOctet (a.toNat % 4 * 16 + b.toNat / 16) ::
        symbolOctet (b.toNat % 16 * 4 + c.toNat / 64) :: symbolOctet (c.toNat % 64) ::
          Utf8.encodeChars (encodePadded rest) := by
  have bounded := sextets_lt (a :: b :: c :: rest)
  rw [sextets] at bounded
  rw [encodePadded_group, encodeChars_symbol _ (bounded _ (by simp)),
    encodeChars_symbol _ (bounded _ (by simp)), encodeChars_symbol _ (bounded _ (by simp)),
    encodeChars_symbol _ (bounded _ (by simp))]

private theorem paddedOctets_ne_nil {bytes : Bytes} (filled : bytes ≠ []) :
    Utf8.encodeChars (encodePadded bytes) ≠ [] := by
  match bytes with
  | [] => exact absurd rfl filled
  | [a] =>
      rw [paddedOctets_one]
      exact List.cons_ne_nil _ _
  | [a, b] =>
      rw [paddedOctets_two]
      exact List.cons_ne_nil _ _
  | a :: b :: c :: rest =>
      rw [paddedOctets_group]
      exact List.cons_ne_nil _ _

private theorem length_paddedOctets (bytes : Bytes) :
    (Utf8.encodeChars (encodePadded bytes)).length % 4 = 0 := by
  induction bytes using sextets.induct with
  | case1 => rfl
  | case2 a =>
      rw [paddedOctets_one]
      simp only [List.length_cons, List.length_nil]
  | case3 a b =>
      rw [paddedOctets_two]
      simp only [List.length_cons, List.length_nil]
  | case4 a b c rest ih =>
      rw [paddedOctets_group]
      simp only [List.length_cons]
      omega

private theorem decodeGroups_encodePadded (offset : Nat) (bytes : Bytes) :
    decodeGroups offset (Utf8.encodeChars (encodePadded bytes)) = .ok bytes := by
  induction bytes using sextets.induct generalizing offset with
  | case1 => rfl
  | case2 a =>
      have groups := octets?_sextets [a]
      have bounded := sextets_lt [a]
      rw [sextets] at groups bounded
      rw [paddedOctets_one, decodeGroups, decodeTail_symbol _ _ _ _ (bounded _ (by simp)),
        decodeTail_symbol _ _ _ _ (bounded _ (by simp)), decodeTail_pad _ _ _ _ _ (by simp),
        decodeTail_pad _ _ _ _ _ (by simp)]
      · exact decodeTail_end _ _ _ _ (by simp) (by simp) groups
      · simp
      · simp
  | case3 a b =>
      have groups := octets?_sextets [a, b]
      have bounded := sextets_lt [a, b]
      rw [sextets] at groups bounded
      rw [paddedOctets_two, decodeGroups, decodeTail_symbol _ _ _ _ (bounded _ (by simp)),
        decodeTail_symbol _ _ _ _ (bounded _ (by simp)),
        decodeTail_symbol _ _ _ _ (bounded _ (by simp)), decodeTail_pad _ _ _ _ _ (by simp)]
      · exact decodeTail_end _ _ _ _ (by simp) (by simp) groups
      · simp
      · simp
  | case4 a b c rest ih =>
      have groups := octets?_sextets (a :: b :: c :: rest)
      have bounded := sextets_lt (a :: b :: c :: rest)
      rw [sextets] at groups bounded
      rw [paddedOctets_group]
      cases rest with
      | nil =>
          rw [show Utf8.encodeChars (encodePadded []) = [] from rfl, decodeGroups,
            decodeTail_symbol _ _ _ _ (bounded _ (by simp)),
            decodeTail_symbol _ _ _ _ (bounded _ (by simp)),
            decodeTail_symbol _ _ _ _ (bounded _ (by simp)),
            decodeTail_symbol _ _ _ _ (bounded _ (by simp))]
          · exact decodeTail_end _ _ _ _ (by simp) (by simp) groups
          · simp
          · simp
      | cons next more =>
          have read := ih (offset + 4)
          cases tail : Utf8.encodeChars (encodePadded (next :: more)) with
          | nil => exact absurd tail (paddedOctets_ne_nil (List.cons_ne_nil _ _))
          | cons octet behind =>
              rw [tail] at read
              rw [octets?, octets?_sextets, Option.map_some] at groups
              rw [decodeGroups]
              simp only [valueAt_symbolOctet _ (bounded (a.toNat / 4) (by simp)),
                valueAt_symbolOctet _ (bounded (a.toNat % 4 * 16 + b.toNat / 16) (by simp)),
                valueAt_symbolOctet _ (bounded (b.toNat % 16 * 4 + c.toNat / 64) (by simp)),
                valueAt_symbolOctet _ (bounded (c.toNat % 64) (by simp)), read, bind, Except.bind,
                pure, Except.pure]
              exact congrArg Except.ok (Option.some.inj groups)

theorem decodePadded_encodePadded (bytes : Bytes) :
    decodePadded (Utf8.encodeChars (encodePadded bytes)) = .ok bytes := by
  have whole := length_paddedOctets bytes
  unfold decodePadded
  split
  · rw [if_neg (by omega)]
    exact decodeGroups_encodePadded 0 bytes
  · rename_i empty
    have none_left := List.getLast?_eq_none_iff.mp empty
    have read := decodeGroups_encodePadded 0 bytes
    rw [none_left] at read
    exact read

end Turnstile.Base64
