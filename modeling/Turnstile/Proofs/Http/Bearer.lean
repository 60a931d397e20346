import Turnstile.Http.Bearer
import Turnstile.Proofs.Credential.Soundness
import Turnstile.Proofs.Text.Trim
import Turnstile.Proofs.Text.Utf8
set_option autoImplicit false

/-! How tokens get into headers and out of them. What is found in headers is what the first
authorization header presents, and every credential has visible characters only, so that none is lost
on the way. -/

namespace Turnstile

theorem Base64.visible_of_mem_encodeUrl {bytes : Bytes} {char : Char}
    (inside : char ∈ encodeUrl bytes) : Text.Visible char := by
  have visible : ∀ value < 64, 0x21 ≤ (urlSafe.symbol value).toNat ∧
      (urlSafe.symbol value).toNat < 0x7f := by decide
  obtain ⟨value, member, rfl⟩ := List.mem_map.mp inside
  exact visible value (sextets_lt bytes value member)

theorem Credential.Parts.visible_of_mem_render {parts : Parts} {char : Char}
    (inside : char ∈ parts.compact.render.toList) : Text.Visible char := by
  have dot : Text.Visible '.' := by unfold Text.Visible; decide
  simp only [Jws.Compact.render, Jws.Compact.signedText, compact, String.toList_ofList,
    List.mem_append, List.mem_cons] at inside
  rcases inside with (header | rfl | payload) | rfl | signature
  · exact Base64.visible_of_mem_encodeUrl header
  · exact dot
  · exact Base64.visible_of_mem_encodeUrl payload
  · exact dot
  · exact Base64.visible_of_mem_encodeUrl signature

theorem KeyStore.visible_of_issueClaims {keys : KeyStore} {kid token : String} {claims : Claims}
    (issued : keys.issueClaims kid claims = .ok token) :
    token ≠ "" ∧ ∀ char ∈ token.toList, Text.Visible char := by
  obtain ⟨pair, found, signed⟩ := signed_of_issueClaims issued
  obtain ⟨vouched, _⟩ := vouched_of_signClaims found signed
  obtain ⟨parts, _, genuine⟩ := vouched.exists_genuine
  rw [genuine.written]
  refine ⟨?_, fun _ inside => Credential.Parts.visible_of_mem_render inside⟩
  intro empty
  have noText := congrArg String.toList empty
  simp [Jws.Compact.render] at noText

namespace Http

/-! ### Octets and characters -/

theorem isPlainOctet_iff (octet : UInt8) :
    isPlainOctet octet = true ↔ octet.toNat = 9 ∨ 0x20 ≤ octet.toNat ∧ octet.toNat < 0x7f := by
  rw [isPlainOctet, Bool.or_eq_true, Bool.and_eq_true, beq_iff_eq, decide_eq_true_iff,
    decide_eq_true_iff, UInt8.le_iff_toNat_le, UInt8.lt_iff_toNat_lt, ← UInt8.toNat_inj]
  rfl

/-- A character that a header can carry: a tab, a space or a visible one. -/
def Plain (char : Char) : Prop := char = '\t' ∨ char = ' ' ∨ Text.Visible char

theorem plain_iff (char : Char) :
    Plain char ↔ char.toNat = 9 ∨ 0x20 ≤ char.toNat ∧ char.toNat < 0x7f := by
  have tab : char = '\t' ↔ char.toNat = 9 := Char.toNat_inj.symm
  have space : char = ' ' ↔ char.toNat = 0x20 := Char.toNat_inj.symm
  rw [Plain, Text.Visible, tab, space]
  omega

theorem encodeChars_of_plain {octets : Bytes} (plain : octets.all isPlainOctet = true) :
    Utf8.encodeChars (octets.map fun octet => Char.ofNat octet.toNat) = octets := by
  have points : ∀ octet ∈ octets, octet.toNat < 0x80 ∧
      (Char.ofNat octet.toNat).toNat = octet.toNat := by
    intro octet inside
    have range := (isPlainOctet_iff octet).mp (List.all_eq_true.mp plain octet inside)
    have valid : octet.toNat.isValidChar := Or.inl (by omega)
    have same : (Char.ofNat octet.toNat).toNat = octet.toNat := by
      rw [Char.ofNat, dif_pos valid]
      rfl
    exact ⟨by omega, same⟩
  rw [Utf8.encodeChars_of_small, List.map_map]
  · refine (List.map_congr_left fun octet inside => ?_).trans (List.map_id octets)
    rw [Function.comp, (points octet inside).2, UInt8.ofNat_toNat, id]
  · intro char inside
    obtain ⟨octet, member, rfl⟩ := List.mem_map.mp inside
    obtain ⟨small, same⟩ := points octet member
    rw [same]
    exact small

theorem isPlainOctet_of_plain {text : List Char} (plain : ∀ char ∈ text, Plain char) :
    (Utf8.encodeChars text).all isPlainOctet = true := by
  have range := fun char inside => (plain_iff char).mp (plain char inside)
  have octets : Utf8.encodeChars text = text.map fun char => UInt8.ofNat char.toNat := by
    refine Utf8.encodeChars_of_small fun char inside => ?_
    have facts := range char inside
    omega
  rw [octets, List.all_map, List.all_eq_true]
  intro char inside
  have facts := range char inside
  rw [Function.comp, isPlainOctet_iff, Utf8.toNat_ofNat_octet (by omega)]
  exact facts

/-- A header value is a text exactly if its octets are plain ones of that text. -/
theorem plainText?_eq_some_iff {octets : Bytes} {text : List Char} :
    plainText? octets = some (String.ofList text) ↔
      octets.all isPlainOctet = true ∧ octets = Utf8.encodeChars text := by
  rw [plainText?]
  constructor
  · intro read
    split at read
    · rename_i plain
      have same := String.ofList_injective (Option.some.inj read)
      exact ⟨plain, by rw [← same, encodeChars_of_plain plain]⟩
    · cases read
  · rintro ⟨plain, written⟩
    have decoded := Utf8.decodeChars_encodeChars text
    rw [← written, ← encodeChars_of_plain plain, Utf8.decodeChars_encodeChars] at decoded
    rw [if_pos plain, Except.ok.inj decoded]

/-! ### Header values -/

/-- A header value with a token: tabs, spaces and visible characters, of which there are, behind the
scheme, just those of the token and blanks around them. -/
structure Presents (value : Bytes) (token : String) : Prop where
  plain : ∀ octet ∈ value, octet.toNat = 9 ∨ 0x20 ≤ octet.toNat ∧ octet.toNat < 0x7f
  announced : ∃ rest, value = Utf8.encodeChars ("Bearer ".toList ++ rest) ∧
    Text.trimChars rest = token.toList
  filled : token ≠ ""

theorem tokenOfValue?_eq_some_iff {value : Bytes} {token : String} :
    tokenOfValue? value = some token ↔ Presents value token := by
  have plainOctets : (∀ octet ∈ value, octet.toNat = 9 ∨ 0x20 ≤ octet.toNat ∧ octet.toNat < 0x7f) ↔
      value.all isPlainOctet = true := by
    simp only [List.all_eq_true, isPlainOctet_iff]
  constructor
  · intro found
    obtain ⟨text, read, found⟩ := Option.bind_eq_some_iff.mp found
    rw [← String.ofList_toList (s := text)] at read
    obtain ⟨plain, written⟩ := plainText?_eq_some_iff.mp read
    cases announced : bearerScheme.toList.isPrefixOf text.toList with
    | false =>
        rw [announced] at found
        cases found
    | true =>
        obtain ⟨rest, split⟩ := List.isPrefixOf_iff_prefix.mp announced
        rw [announced, ← split, List.drop_left] at found
        cases kept : Text.trimChars rest with
        | nil =>
            rw [kept] at found
            cases found
        | cons first more =>
            rw [kept] at found
            cases found
            refine ⟨plainOctets.mpr plain, ⟨rest, ?_, ?_⟩, ?_⟩
            · rw [written, ← split]
              rfl
            · rw [kept, String.toList_ofList]
            · simp
  · rintro ⟨plain, ⟨rest, written, trimmed⟩, filled⟩
    have read : plainText? value = some (String.ofList ("Bearer ".toList ++ rest)) :=
      plainText?_eq_some_iff.mpr ⟨plainOctets.mp plain, written⟩
    have announced : bearerScheme.toList.isPrefixOf ("Bearer ".toList ++ rest) = true :=
      List.isPrefixOf_iff_prefix.mpr (List.prefix_append _ _)
    have dropped : ("Bearer ".toList ++ rest).drop bearerScheme.toList.length = rest :=
      List.drop_left
    have letters : token.toList.isEmpty = false := by simpa using filled
    simp only [tokenOfValue?, read, Option.bind_eq_bind, Option.bind_some, String.toList_ofList,
      announced, dropped, trimmed, letters, Bool.not_true, Bool.false_eq_true, if_false,
      String.ofList_toList]
    rfl

/-- A token of visible characters is presented with any spaces and tabs around it. -/
theorem presents_around {token : String} (filled : token ≠ "")
    (visible : ∀ char ∈ token.toList, Text.Visible char) (front back : List Char)
    (around : ∀ char ∈ front ++ back, char = ' ' ∨ char = '\t') :
    Presents (Utf8.encodeChars ("Bearer ".toList ++ (front ++ (token.toList ++ back)))) token := by
  have scheme : ∀ char ∈ "Bearer ".toList, Plain char := by
    have letters : "Bearer ".toList = ['B', 'e', 'a', 'r', 'e', 'r', ' '] := rfl
    rw [letters]
    simp [Plain, Text.Visible]
  have aroundPlain : ∀ char ∈ front ++ back, Plain char := fun char inside =>
    (around char inside).elim (fun space => Or.inr (Or.inl space)) Or.inl
  have plain : ∀ char ∈ "Bearer ".toList ++ (front ++ (token.toList ++ back)), Plain char := by
    intro char inside
    rcases List.mem_append.mp inside with first | inside
    · exact scheme char first
    · rcases List.mem_append.mp inside with before | inside
      · exact aroundPlain char (List.mem_append_left _ before)
      · rcases List.mem_append.mp inside with within | behind
        · exact Or.inr (Or.inr (visible char within))
        · exact aroundPlain char (List.mem_append_right _ behind)
  have blank : ∀ char ∈ front ++ back, Text.isBlank char = true := by
    intro char inside
    rcases around char inside with rfl | rfl <;> rfl
  refine ⟨?_, ⟨_, rfl, ?_⟩, filled⟩
  · intro octet inside
    exact (isPlainOctet_iff octet).mp (List.all_eq_true.mp (isPlainOctet_of_plain plain) octet inside)
  · exact Text.trimChars_eq_iff.mpr ⟨Text.trimmed_of_visible visible, front, back, blank, rfl⟩

/-! ### Headers -/

theorem first?_eq_none_iff {headers : Headers} {name : String} :
    headers.first? name = none ↔ ∀ header ∈ headers, sameName header.1 name = false := by
  simp [Headers.first?]

theorem first?_append (before : Headers) {name other : String} (value : Bytes) (after : Headers)
    (earlier : ∀ header ∈ before, sameName header.1 name = false)
    (same : sameName other name = true) :
    Headers.first? (before ++ (other, value) :: after) name = some value := by
  have none : before.find? (fun header => sameName header.1 name) = Option.none := by
    simpa using earlier
  rw [Headers.first?, List.find?_append, none, Option.none_or, List.find?_cons, same]
  rfl

section Token

variable {headers : Headers} {value : Bytes}

theorem bearerToken_eq_ok_iff (first : headers.first? "authorization" = some value)
    (token : String) : bearerToken headers = .ok token ↔ Presents value token := by
  rw [bearerToken, first, ← tokenOfValue?_eq_some_iff]
  cases found : tokenOfValue? value <;> simp [found]

theorem bearerToken_eq_invalidHeader_iff (first : headers.first? "authorization" = some value) :
    bearerToken headers = .error .invalidHeader ↔ ∀ token, ¬ Presents value token := by
  rw [bearerToken, first]
  simp only [← tokenOfValue?_eq_some_iff]
  cases tokenOfValue? value <;> simp

theorem bearerToken_eq_missingHeader_iff :
    bearerToken headers = .error .missingHeader ↔
      ∀ header ∈ headers, sameName header.1 "authorization" = false := by
  rw [← first?_eq_none_iff, bearerToken]
  cases headers.first? "authorization" with
  | none => simp
  | some value => cases found : tokenOfValue? value <;> simp [found]

theorem exists_presents_of_bearerToken {token : String} (found : bearerToken headers = .ok token) :
    ∃ value, Presents value token := by
  cases first : headers.first? "authorization" with
  | none =>
      rw [bearerToken, first] at found
      cases found
  | some value => exact ⟨value, (bearerToken_eq_ok_iff first token).mp found⟩

end Token

/-- Headers that carry a token. -/
def bearing (token : String) : Headers :=
  [("authorization", Utf8.encodeChars (bearerScheme.toList ++ token.toList))]

theorem bearerToken_bearing {token : String} (filled : token.toList ≠ [])
    (visible : ∀ char ∈ token.toList, Text.Visible char) :
    bearerToken (bearing token) = .ok token := by
  have nonempty : token ≠ "" := by simpa using filled
  have presents := presents_around nonempty visible [] [] (by simp)
  rw [List.nil_append, List.append_nil] at presents
  have same : sameName "authorization" "authorization" = true := by decide
  have first : (bearing token).first? "authorization" = _ :=
    first?_append [] _ [] (by simp) same
  exact (bearerToken_eq_ok_iff first token).mpr presents

/-- Headers have no token for lack of an authorization header, or the first such header decides alone:
the token is the one that it presents, and without one it is invalid. What is found is not empty and
has no blank at its ends, and a credential of any issuer is found with any spaces and tabs around
it. -/
theorem bearerToken_first_presented (headers : Headers) :
    (bearerToken headers = .error .missingHeader ↔
      ∀ header ∈ headers, sameName header.1 "authorization" = false) ∧
    (∀ before name value after, headers = before ++ (name, value) :: after →
      (∀ header ∈ before, sameName header.1 "authorization" = false) →
      sameName name "authorization" = true →
        (∀ token, bearerToken headers = .ok token ↔ Presents value token) ∧
        (bearerToken headers = .error .invalidHeader ↔ ∀ token, ¬ Presents value token) ∧
        ∀ (keys : KeyStore) kid claims token, keys.issueClaims kid claims = .ok token →
          ∀ front back : List Char, (∀ char ∈ front ++ back, char = ' ' ∨ char = '\t') →
            value = Utf8.encodeChars ("Bearer ".toList ++ (front ++ (token.toList ++ back))) →
              bearerToken headers = .ok token) ∧
    ∀ token, bearerToken headers = .ok token → token ≠ "" ∧ Text.Trimmed token.toList := by
  refine ⟨bearerToken_eq_missingHeader_iff, ?first, ?found⟩
  case first =>
    rintro before name value after rfl earlier same
    have first := first?_append before value after earlier same
    refine ⟨bearerToken_eq_ok_iff first, bearerToken_eq_invalidHeader_iff first, ?_⟩
    rintro keys kid claims token issued front back around rfl
    obtain ⟨filled, visible⟩ := keys.visible_of_issueClaims issued
    exact (bearerToken_eq_ok_iff first token).mpr (presents_around filled visible front back around)
  case found =>
    intro token found
    obtain ⟨value, _, ⟨rest, _, trimmed⟩, filled⟩ := exists_presents_of_bearerToken found
    exact ⟨filled, trimmed ▸ Text.trimmed_trimChars rest⟩

end Http

end Turnstile
