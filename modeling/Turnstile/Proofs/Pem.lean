import Turnstile.Pem
import Turnstile.Proofs.Base64
set_option autoImplicit false

/-! Key material read back from its text. A block that is written comes back with its label and
its octets, as long as the label has no dash. -/

namespace Turnstile

namespace Utf8

theorem mem_of_mem_encodeChars {text : List Char} {octet : UInt8}
    (member : octet ∈ encodeChars text) (small : octet.toNat < 0x80) :
    Char.ofNat octet.toNat ∈ text := by
  obtain ⟨char, written, inside⟩ := List.mem_flatMap.mp member
  by_cases seven : char.toNat < 0x80
  · rw [encodeChar_of_small seven, List.mem_singleton] at inside
    rw [inside, toNat_ofNat_octet (by omega), Char.ofNat_toNat]
    exact written
  · have large := encodeChar_of_large (Nat.not_lt.mp seven) inside
    omega

end Utf8

namespace Pem

/-! ### Markers -/

private theorem throughMarker_fits (marker awaited rest : Bytes) (filled : awaited ≠ []) :
    throughMarker marker awaited (awaited ++ rest) = some (awaited, rest) := by
  induction awaited with
  | nil => exact absurd rfl filled
  | cons next awaited ih =>
      rw [List.cons_append, throughMarker, if_pos rfl]
      cases awaited with
      | nil => rfl
      | cons second more =>
          rw [ih (List.cons_ne_nil _ _)]
          rfl

private theorem throughMarker_skip (first : UInt8) (marker before rest : Bytes)
    (absent : first ∉ before) :
    throughMarker (first :: marker) (first :: marker) (before ++ rest) =
      (throughMarker (first :: marker) (first :: marker) rest).map
        fun (through, after) => (before ++ through, after) := by
  induction before with
  | nil => exact (Option.map_id' ..).symm
  | cons octet before ih =>
      have other : ¬ octet = first := fun same => absent (same ▸ List.mem_cons_self)
      have absentLater : first ∉ before := fun member => absent (List.mem_cons_of_mem _ member)
      rw [List.cons_append, throughMarker, if_neg other, ih absentLater, Option.map_map]
      rfl

private theorem cutAt_marker (first : UInt8) (marker before rest : Bytes)
    (absent : first ∉ before) :
    cutAt (first :: marker) (before ++ (first :: marker ++ rest)) = some (before, rest) := by
  rw [cutAt, throughMarker_skip _ _ _ _ absent,
    throughMarker_fits _ _ _ (List.cons_ne_nil _ _)]
  simp

/-! ### Lines of symbols -/

private def IsSymbol (char : Char) : Prop :=
  Text.isBlank char = false ∧ char ≠ '-' ∧ char.toNat < 0x80 ∧ char ≠ '\n' ∧ char ≠ '\r'

private theorem isSymbol_symbol : ∀ value < 64,
    Text.isBlank (Base64.standard.symbol value) = false ∧ Base64.standard.symbol value ≠ '-' ∧
      (Base64.standard.symbol value).toNat < 0x80 ∧ Base64.standard.symbol value ≠ '\n' ∧
      Base64.standard.symbol value ≠ '\r' := by
  decide

private theorem isSymbol_encodePadded (bytes : Bytes) :
    ∀ char ∈ Base64.encodePadded bytes, IsSymbol char := by
  intro char member
  simp only [Base64.encodePadded, List.mem_append, List.mem_map] at member
  rcases member with ⟨value, inside, rfl⟩ | padding
  · exact isSymbol_symbol value (Base64.sextets_lt bytes value inside)
  · rw [List.eq_of_mem_replicate padding]
    exact ⟨by decide, by decide, by decide, by decide, by decide⟩

private theorem wrap_cons (lines : Nat) (char : Char) (rest : List Char) :
    wrap (lines + 1) (char :: rest) =
      (char :: rest).take 64 ++ ['\r', '\n'] ++ wrap lines ((char :: rest).drop 64) := rfl

private theorem filter_wrap (lines : Nat) (symbols : List Char) (enough : symbols.length ≤ lines)
    (visible : ∀ char ∈ symbols, IsSymbol char) :
    (wrap lines symbols).filter (fun char => !Text.isBlank char) = symbols := by
  induction lines generalizing symbols with
  | zero =>
      rw [List.length_eq_zero_iff.mp (Nat.le_zero.mp enough)]
      rfl
  | succ lines ih =>
      cases symbols with
      | nil => rfl
      | cons char rest =>
          have front : ∀ other ∈ (char :: rest).take 64, (!Text.isBlank other) = true := by
            intro other member
            rw [(visible other (List.mem_of_mem_take member)).1]
            rfl
          have behind := ih ((char :: rest).drop 64)
            (by rw [List.length_drop]; omega)
            (fun other member => visible other (List.mem_of_mem_drop member))
          rw [wrap_cons, List.filter_append, List.filter_append, List.filter_eq_self.mpr front,
            behind,
            show (['\r', '\n'].filter fun char => !Text.isBlank char) = [] by decide,
            List.append_nil, List.take_append_drop]

private theorem mem_wrap {lines : Nat} {symbols : List Char} {char : Char}
    (member : char ∈ wrap lines symbols) : char ∈ symbols ∨ char = '\r' ∨ char = '\n' := by
  induction lines generalizing symbols with
  | zero => cases member
  | succ lines ih =>
      cases symbols with
      | nil => cases member
      | cons first rest =>
          rw [wrap_cons, List.mem_append, List.mem_append] at member
          rcases member with (front | lineEnd) | behind
          · exact Or.inl (List.mem_of_mem_take front)
          · simp only [List.mem_cons, List.not_mem_nil, or_false] at lineEnd
            exact Or.inr lineEnd
          · rcases ih behind with later | lineEnd
            · exact Or.inl (List.mem_of_mem_drop later)
            · exact Or.inr lineEnd

private theorem symbolOctet_ne {symbols : List Char} (visible : ∀ char ∈ symbols, IsSymbol char)
    {octet : UInt8} (member : octet ∈ Utf8.encodeChars symbols) :
    octet ≠ 0x0a ∧ octet ≠ 0x0d ∧ octet ≠ 0x2d := by
  have symbol : octet.toNat < 0x80 → IsSymbol (Char.ofNat octet.toNat) :=
    fun small => visible _ (Utf8.mem_of_mem_encodeChars member small)
  refine ⟨?_, ?_, ?_⟩
  · rintro rfl
    exact (symbol (by decide)).2.2.2.1 rfl
  · rintro rfl
    exact (symbol (by decide)).2.2.2.2 rfl
  · rintro rfl
    exact (symbol (by decide)).2.1 rfl

/-- A marker that is lost behind every line end is not found in lines of symbols. The state is
what is still awaited when a line has just ended. -/
private theorem throughMarker_wrap (first : UInt8) (marker state : Bytes)
    (outside : first = 0x0a ∨ first = 0x0d)
    (ends : ∀ rest, throughMarker (first :: marker) state rest = none →
      throughMarker (first :: marker) (first :: marker) (0x0d :: 0x0a :: rest) = none)
    (restarts : ∀ octet rest, octet ≠ 0x0a → octet ≠ 0x0d →
      throughMarker (first :: marker) (first :: marker) rest = none →
        throughMarker (first :: marker) state (octet :: rest) = none)
    (lines : Nat) (symbols : List Char) (visible : ∀ char ∈ symbols, IsSymbol char) :
    throughMarker (first :: marker) (first :: marker) (Utf8.encodeChars (wrap lines symbols)) =
        none ∧
      throughMarker (first :: marker) state (Utf8.encodeChars (wrap lines symbols)) = none := by
  have nothing : throughMarker (first :: marker) state [] = none := by
    cases state <;> rfl
  have skips : ∀ before rest : Bytes, (∀ octet ∈ before, octet ≠ 0x0a ∧ octet ≠ 0x0d) →
      throughMarker (first :: marker) (first :: marker) rest = none →
      throughMarker (first :: marker) (first :: marker) (before ++ rest) = none := by
    intro before rest plain lost
    rw [throughMarker_skip, lost, Option.map_none]
    intro member
    rcases outside with rfl | rfl
    · exact (plain _ member).1 rfl
    · exact (plain _ member).2 rfl
  induction lines generalizing symbols with
  | zero => exact ⟨rfl, nothing⟩
  | succ lines ih =>
      cases symbols with
      | nil => exact ⟨rfl, nothing⟩
      | cons char rest =>
          have behind := (ih ((char :: rest).drop 64)
            fun other member => visible other (List.mem_of_mem_drop member)).2
          have lost := ends _ behind
          have front : ∀ octet ∈ Utf8.encodeChars ((char :: rest).take 64),
              octet ≠ 0x0a ∧ octet ≠ 0x0d := by
            intro octet member
            obtain ⟨notFeed, notReturn, _⟩ := symbolOctet_ne
              (fun other inside => visible other (List.mem_of_mem_take inside)) member
            exact ⟨notFeed, notReturn⟩
          have octets : Utf8.encodeChars (wrap (lines + 1) (char :: rest)) =
              Utf8.encodeChars ((char :: rest).take 64) ++
                0x0d :: 0x0a :: Utf8.encodeChars (wrap lines ((char :: rest).drop 64)) := by
            rw [wrap_cons, Utf8.encodeChars_append, Utf8.encodeChars_append, List.append_assoc]
            rfl
          rw [octets]
          refine ⟨skips _ _ front lost, ?_⟩
          cases line : Utf8.encodeChars ((char :: rest).take 64) with
          | nil =>
              rw [List.take_succ_cons, Utf8.encodeChars_cons,
                Utf8.encodeChar_of_small (visible char List.mem_cons_self).2.2.1] at line
              cases line
          | cons octet more =>
              rw [line] at front
              rw [List.cons_append]
              obtain ⟨notFeed, notReturn⟩ := front octet List.mem_cons_self
              exact restarts _ _ notFeed notReturn
                (skips _ _ (fun other inside => front other (List.mem_cons_of_mem _ inside)) lost)

private theorem partHeaders_wrap (lines : Nat) (symbols : List Char)
    (visible : ∀ char ∈ symbols, IsSymbol char) :
    partHeaders (Utf8.encodeChars (wrap lines symbols)) =
      ([], Utf8.encodeChars (wrap lines symbols)) := by
  have feeds := (throughMarker_wrap 0x0a [0x0a] [0x0a] (Or.inl rfl)
    (by
      intro rest lost
      simp only [throughMarker, lost]
      rfl)
    (by
      intro octet rest notFeed _ lost
      simp only [throughMarker, if_neg notFeed, lost]
      rfl) lines symbols visible).1
  have returns := (throughMarker_wrap 0x0d [0x0a, 0x0d, 0x0a] [0x0d, 0x0a] (Or.inr rfl)
    (by
      intro rest lost
      simp only [throughMarker, lost]
      rfl)
    (by
      intro octet rest _ notReturn lost
      simp only [throughMarker, if_neg notReturn, lost]
      rfl) lines symbols visible).1
  simp only [partHeaders, cutAt, feeds, returns, Option.map_none]

/-! ### Blocks -/

private theorem encode_render (block : Block) :
    Utf8.encode (render block) =
      beginMarker ++ (Utf8.encode block.label ++ (dashes ++ (0x0d :: 0x0a ::
        (Utf8.encodeChars (wrap (Base64.encodePadded block.contents).length
            (Base64.encodePadded block.contents)) ++
          (endMarker ++ (Utf8.encode block.label ++ (dashes ++ [0x0d, 0x0a]))))))) := by
  have opened : Utf8.encodeChars "-----BEGIN ".toList = beginMarker := rfl
  have closed : Utf8.encodeChars "-----END ".toList = endMarker := rfl
  have ended : Utf8.encodeChars "-----\r\n".toList = dashes ++ [0x0d, 0x0a] := by
    decide +kernel
  unfold render
  simp only [Utf8.encode, String.toList_append, String.toList_ofList,
    Utf8.encodeChars_append, opened, closed, ended, List.append_assoc, List.cons_append,
    List.nil_append]

private theorem skipBlank_of_not_blank {octet : UInt8} (rest : Bytes)
    (visible : octet ≠ 0x20 ∧ octet ≠ 0x09 ∧ octet ≠ 0x0a ∧ octet ≠ 0x0d) :
    skipBlank (octet :: rest) = octet :: rest := by
  rw [skipBlank, if_neg (by simp [visible])]

private theorem skipBlank_wrap (lines : Nat) (symbols : List Char) (rest : Bytes)
    (visible : ∀ char ∈ symbols, IsSymbol char) :
    skipBlank (0x0d :: 0x0a :: (Utf8.encodeChars (wrap lines symbols) ++ (endMarker ++ rest))) =
      Utf8.encodeChars (wrap lines symbols) ++ (endMarker ++ rest) := by
  have marker : endMarker = 0x2d :: endMarker.tail := by
    decide +kernel
  have start : ∀ bytes, skipBlank (0x0d :: 0x0a :: bytes) = skipBlank bytes := fun _ => rfl
  have bare : skipBlank (endMarker ++ rest) = endMarker ++ rest := by
    rw [marker, List.cons_append]
    exact skipBlank_of_not_blank _ (by decide)
  rw [start]
  cases lines with
  | zero => exact bare
  | succ lines =>
      cases symbols with
      | nil => exact bare
      | cons char more =>
          obtain ⟨blank, _, small, _, _⟩ := visible char List.mem_cons_self
          have octet : (UInt8.ofNat char.toNat).toNat = char.toNat :=
            Utf8.toNat_ofNat_octet (by omega)
          have notBlank : ∀ value : UInt8, Text.isBlank (Char.ofNat value.toNat) = true →
              UInt8.ofNat char.toNat ≠ value := by
            rintro value isBlank rfl
            rw [octet, Char.ofNat_toNat, blank] at isBlank
            cases isBlank
          rw [wrap_cons, List.take_succ_cons, List.cons_append, List.cons_append,
            Utf8.encodeChars_cons, Utf8.encodeChar_of_small small, List.singleton_append,
            List.cons_append]
          exact skipBlank_of_not_blank _ ⟨notBlank _ (by decide), notBlank _ (by decide),
            notBlank _ (by decide), notBlank _ (by decide)⟩

private theorem dash_not_mem_label {label : String} (dashless : '-' ∉ label.toList) :
    0x2d ∉ Utf8.encode label := by
  intro member
  exact dashless (Utf8.mem_of_mem_encodeChars member (by decide))

private theorem frame?_render (block : Block) (dashless : '-' ∉ block.label.toList) :
    frame? (Utf8.encode (render block)) =
      some ⟨Utf8.encode block.label, [],
        Utf8.encodeChars (wrap (Base64.encodePadded block.contents).length
          (Base64.encodePadded block.contents)), Utf8.encode block.label⟩ := by
  have visible := isSymbol_encodePadded block.contents
  have cutBegin : ∀ rest, cutAt beginMarker (beginMarker ++ rest) = some ([], rest) := by
    have marker : beginMarker = 0x2d :: beginMarker.tail := by
      decide +kernel
    intro rest
    rw [marker]
    exact cutAt_marker _ _ [] rest List.not_mem_nil
  have cutDashes : ∀ rest, cutAt dashes (Utf8.encode block.label ++ (dashes ++ rest)) =
      some (Utf8.encode block.label, rest) := by
    have marker : dashes = 0x2d :: dashes.tail := by
      decide +kernel
    intro rest
    rw [marker]
    exact cutAt_marker _ _ _ rest (dash_not_mem_label dashless)
  have cutEnd : ∀ rest, cutAt endMarker
      (Utf8.encodeChars (wrap (Base64.encodePadded block.contents).length
        (Base64.encodePadded block.contents)) ++ (endMarker ++ rest)) =
      some (Utf8.encodeChars (wrap (Base64.encodePadded block.contents).length
        (Base64.encodePadded block.contents)), rest) := by
    have marker : endMarker = 0x2d :: endMarker.tail := by
      decide +kernel
    intro rest
    rw [marker]
    refine cutAt_marker _ _ _ rest ?_
    intro member
    have inWrap := Utf8.mem_of_mem_encodeChars member (by decide)
    rcases mem_wrap inWrap with symbol | lineEnd | lineEnd
    · exact (visible _ symbol).2.1 rfl
    · cases lineEnd
    · cases lineEnd
  rw [encode_render, frame?]
  simp only [cutBegin, bind, Option.bind_some, cutDashes, skipBlank_wrap _ _ _ visible, cutEnd,
    partHeaders_wrap _ _ visible, pure]

theorem parse_render (block : Block) (labelled : block.label ≠ "")
    (dashless : '-' ∉ block.label.toList) :
    parse (Utf8.encode (render block)) = .ok block := by
  have visible := isSymbol_encodePadded block.contents
  have filled : block.label.toList.isEmpty = false := by
    rw [List.isEmpty_eq_false_iff]
    intro empty
    exact labelled (String.toList_eq_nil_iff.mp empty)
  have label : text (Utf8.encode block.label) = .ok block.label.toList := by
    rw [text, Utf8.encode, Utf8.decodeChars_encodeChars]
  have data : ∀ chars, text (Utf8.encodeChars chars) = .ok chars := by
    intro chars
    rw [text, Utf8.decodeChars_encodeChars]
  have headers : text [] = .ok [] := rfl
  rw [parse, frame?_render block dashless]
  simp only [Frame.block, label, data, headers, bind, Except.bind, filled, Bool.false_eq_true,
    if_false, ne_eq, not_true_eq_false, pure, Except.pure, filter_wrap _ _ (Nat.le_refl _) visible,
    Base64.decodePadded_encodePadded, Text.lines, List.find?_nil, String.ofList_toList]

end Pem

end Turnstile
