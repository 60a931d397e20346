import Turnstile.Proofs.Credential.Checks
set_option autoImplicit false

/-! Why credentials are refused. The checks of a validator have an order, and the first that a token
fails gives the error; a token that fails none is accepted. Between the check of the key and that of
the signature the header is read in full, and a header that is not in order then makes the token
malformed, whether it is signed or not. -/

namespace Turnstile

open Credential (Asks Says Segments SignedBy)
open Jws (Compact KeyHint)
open Jws.Header (InOrder)

/-- Claims hold at a second, up to a leeway at both ends. -/
def Claims.HoldAt (claims : Claims) (leeway : Nat) (now : Int64) : Prop :=
  claims.notBefore.toInt - min (leeway : Int) 0x7fffffffffffffff ≤ now.toInt ∧
    now.toInt ≤ claims.expires.toInt + min (leeway : Int) 0x7fffffffffffffff

namespace Credential

/-- A token asks for a loaded key and for the one algorithm that is allowed. -/
structure Keyed (keys : KeyStore) (token : String) (compact : Compact) (header : Bytes)
    (pair : KeyPair) : Prop where
  asks : Asks token compact header ⟨"RS256", pair.kid⟩
  found : keys.get? pair.kid = some pair

/-- A token has a header in order and is signed under the key that it asks for, and its payload says
claims. -/
def Opened (keys : KeyStore) (token : String) (claims : Claims) : Prop :=
  ∃ compact header pair payload, Keyed keys token compact header pair ∧ InOrder header ∧
    SignedBy pair compact payload ∧ Says payload claims

end Credential

open Credential (Keyed Opened)

section Checks

variable (keys : KeyStore) (leeway : Nat) (audience : Option String) (now : Int64) (token : String)

/-- The first check that a token fails, and the error that it is refused with. -/
inductive Validator.Refuses : CredentialError → Prop where
  | form (unasked : ∀ compact header hint, ¬ Asks token compact header hint) : Refuses .malformed
  | algorithm {compact : Compact} {header : Bytes} {hint : KeyHint}
      (asks : Asks token compact header hint) (other : hint.algorithm ≠ "RS256") :
      Refuses .signature
  | key {compact : Compact} {header : Bytes} {kid : String}
      (asks : Asks token compact header ⟨"RS256", kid⟩) (missing : keys.get? kid = none) :
      Refuses (.unknownKey kid)
  | header {compact : Compact} {header : Bytes} {pair : KeyPair}
      (keyed : Keyed keys token compact header pair) (disordered : ¬ InOrder header) :
      Refuses .malformed
  | signature {compact : Compact} {header : Bytes} {pair : KeyPair}
      (keyed : Keyed keys token compact header pair) (inOrder : InOrder header)
      (unsigned : ∀ payload, ¬ SignedBy pair compact payload) : Refuses .signature
  | payload {compact : Compact} {header payload : Bytes} {pair : KeyPair}
      (keyed : Keyed keys token compact header pair) (inOrder : InOrder header)
      (signed : SignedBy pair compact payload) (silent : ∀ claims, ¬ Says payload claims) :
      Refuses .malformed
  | time {claims : Claims} (opened : Opened keys token claims)
      (outside : ¬ claims.HoldAt leeway now) : Refuses .notLive
  | audience {claims : Claims} {required : String} (opened : Opened keys token claims)
      (inside : claims.HoldAt leeway now) (asked : audience = some required)
      (other : claims.audience ≠ some required) : Refuses .audience

/-- A token passes every check, with claims. -/
structure Validator.Accepts (claims : Claims) : Prop where
  opened : Opened keys token claims
  inside : claims.HoldAt leeway now
  addressed : ∀ required, audience = some required → claims.audience = some required

end Checks

/-! ### Keys and claims -/

namespace Credential

variable {keys : KeyStore} {token : String} {compact : Compact} {header : Bytes} {pair : KeyPair}

theorem Keyed.parsed (keyed : Keyed keys token compact header pair) :
    parse token = .ok (compact, ⟨"RS256", pair.kid⟩) :=
  (parse_eq_ok_iff_asks _ _ _).mpr ⟨header, keyed.asks⟩

/-- A token that asks for a loaded key is decided by opening it, then by time and audience. -/
theorem Keyed.validate_of_fault (keyed : Keyed keys token compact header pair) {leeway : Int64}
    {audience : Option String} {now : Int64} {error : CredentialError}
    (unopened : Validator.openClaims pair.publicKey compact = .error error) :
    (Validator.mk keys leeway audience).validate now token = .error error := by
  simp only [Validator.validate, keyed.parsed, algorithm, Jws.Algorithm.name, ne_eq,
    not_true_eq_false, if_false, keyed.found, unopened]

/-- A key vouches for a token that asks for it and is signed under it, if the header is in order and
the payload says claims. -/
theorem Keyed.vouched (keyed : Keyed keys token compact header pair) (inOrder : InOrder header)
    {payload : Bytes} (signed : SignedBy pair compact payload) {claims : Claims}
    (stated : Says payload claims) : Vouched keys pair token claims := by
  have verified := verifiedPayload_of_signed keyed.asks.decoded keyed.asks.written rfl inOrder signed
  exact ⟨compact, _, keyed.parsed, rfl, keyed.found, Validator.openClaims_of_statement verified stated⟩

theorem Opened.exists_vouched {claims : Claims} (opened : Opened keys token claims) :
    ∃ pair, Vouched keys pair token claims := by
  obtain ⟨compact, header, pair, payload, keyed, inOrder, signed, stated⟩ := opened
  exact ⟨pair, keyed.vouched inOrder signed stated⟩

theorem vouched_of_sign {parts : Parts} {claims : Claims} (found : keys.get? pair.kid = some pair)
    (named : parts.header = Utf8.encodeChars (Jws.Header.render algorithm pair.kid))
    (stated : Says parts.payload claims)
    (signed : Rsa.sign pair.key .sha256 parts.compact.signedOctets = .ok parts.signature) :
    Vouched keys pair parts.compact.render claims := by
  obtain ⟨written, inOrder⟩ := Jws.Header.written_render algorithm pair.kid
  rw [← named] at written inOrder
  have verifies := Rsa.verifies_of_sign pair.checked signed
  have signatureFilled : parts.signature ≠ [] :=
    Rsa.ne_nil_of_verifies (Rsa.PrivateKey.toPublic_checked pair.checked) verifies
  have headerFilled : parts.header ≠ [] := named ▸ Jws.Header.render_ne_nil _ _
  have payloadFilled : parts.payload ≠ [] := by
    intro empty
    obtain ⟨_, _, parsed, _⟩ := stated
    rw [empty] at parsed
    cases parsed
  have segments : Segments parts.compact.render parts.compact :=
    { written := rfl
      filled := ⟨Base64.encodeUrl_ne_nil headerFilled, Base64.encodeUrl_ne_nil payloadFilled,
        Base64.encodeUrl_ne_nil signatureFilled⟩
      dotless := ⟨Base64.dot_not_mem_encodeUrl _, Base64.dot_not_mem_encodeUrl _,
        Base64.dot_not_mem_encodeUrl _⟩ }
  have keyed : Keyed keys parts.compact.render parts.compact parts.header pair :=
    ⟨⟨segments, Base64.decodeUrl?_encodeUrl _, written⟩, found⟩
  have byKey : SignedBy pair parts.compact parts.payload :=
    ⟨⟨parts.signature, Base64.decodeUrl?_encodeUrl _, verifies⟩, Base64.decodeUrl?_encodeUrl _⟩
  exact keyed.vouched inOrder byKey stated

theorem exists_signed (pair : KeyPair) (unsigned : Parts)
    (signs : (Rsa.sign pair.key .sha256 unsigned.compact.signedOctets).isOk = true) :
    ∃ parts : Parts, parts.header = unsigned.header ∧ parts.payload = unsigned.payload ∧
      Rsa.sign pair.key .sha256 parts.compact.signedOctets = .ok parts.signature := by
  cases made : Rsa.sign pair.key .sha256 unsigned.compact.signedOctets with
  | error fault =>
      rw [made] at signs
      cases signs
  | ok signature => exact ⟨{ unsigned with signature := signature }, rfl, rfl, made⟩

end Credential

/-! ### The table -/

namespace Validator

variable {keys : KeyStore} {leeway : Nat} {audience : Option String} {now : Int64} {token : String}

theorem validate_of_refuses {error : CredentialError}
    (refuses : Refuses keys leeway audience now token error) :
    (Validator.mk keys (Claims.leewayOf leeway) audience).validate now token = .error error := by
  cases refuses with
  | form unasked => simp only [validate, Credential.parse_of_not_asks unasked]
  | algorithm asks other =>
      have parsed := (Credential.parse_eq_ok_iff_asks _ _ _).mpr ⟨_, asks⟩
      have differs : _ ≠ Credential.algorithm.name := other
      simp only [validate, parsed, if_pos differs]
  | key asks missing =>
      have parsed := (Credential.parse_eq_ok_iff_asks _ _ _).mpr ⟨_, asks⟩
      simp only [validate, parsed, Credential.algorithm, Jws.Algorithm.name, ne_eq,
        not_true_eq_false, if_false, missing]
  | header keyed disordered =>
      exact keyed.validate_of_fault (openClaims_of_fault
        (Credential.verifiedPayload_of_not_inOrder _ _ keyed.asks.decoded disordered))
  | signature keyed inOrder unsigned =>
      exact keyed.validate_of_fault (openClaims_of_fault
        (Credential.verifiedPayload_of_unsigned keyed.asks.decoded keyed.asks.written rfl inOrder
          unsigned))
  | payload keyed inOrder signed silent =>
      exact keyed.validate_of_fault (openClaims_of_no_statement
        (Credential.verifiedPayload_of_signed keyed.asks.decoded keyed.asks.written rfl inOrder
          signed) silent)
  | time opened outside =>
      obtain ⟨pair, vouched⟩ := opened.exists_vouched
      rw [vouched.validate_eq, if_pos]
      rw [← Bool.not_eq_true, Claims.isLiveAt_leewayOf]
      exact outside
  | audience opened inside asked other =>
      obtain ⟨pair, vouched⟩ := opened.exists_vouched
      have live := (Claims.isLiveAt_leewayOf _ now leeway).mpr inside
      rw [vouched.validate_eq, live, if_neg (by decide), if_pos]
      rw [asked]
      exact ⟨by simp, other⟩

theorem validate_of_accepts {claims : Claims}
    (accepts : Accepts keys leeway audience now token claims) :
    (Validator.mk keys (Claims.leewayOf leeway) audience).validate now token = .ok claims := by
  obtain ⟨pair, vouched⟩ := accepts.opened.exists_vouched
  have live := (Claims.isLiveAt_leewayOf _ now leeway).mpr accepts.inside
  rw [vouched.validate_eq, live, if_neg (by decide), if_neg]
  rintro ⟨asked, other⟩
  obtain ⟨required, same⟩ := Option.ne_none_iff_exists'.mp asked
  exact other (same ▸ accepts.addressed required same)

/-- Every token passes all checks or fails one of them first. -/
theorem accepts_or_refuses (keys : KeyStore) (leeway : Nat) (audience : Option String)
    (now : Int64) (token : String) :
    (∃ claims, Accepts keys leeway audience now token claims) ∨
      ∃ error, Refuses keys leeway audience now token error := by
  by_cases asked : ∃ compact header hint, Asks token compact header hint
  case neg =>
    exact Or.inr ⟨_, .form fun compact header hint asks => asked ⟨compact, header, hint, asks⟩⟩
  obtain ⟨compact, header, ⟨algorithm, kid⟩, asks⟩ := asked
  by_cases named : algorithm = "RS256"
  case neg => exact Or.inr ⟨_, .algorithm asks named⟩
  subst named
  cases found : keys.get? kid with
  | none => exact Or.inr ⟨_, .key asks found⟩
  | some pair =>
      obtain rfl : pair.kid = kid := (KeyStore.mem_of_get? found).2
      have keyed : Keyed keys token compact header pair := ⟨asks, found⟩
      by_cases inOrder : InOrder header
      case neg => exact Or.inr ⟨_, .header keyed inOrder⟩
      by_cases signed : ∃ payload, SignedBy pair compact payload
      case neg =>
        exact Or.inr ⟨_, .signature keyed inOrder fun payload by_key => signed ⟨payload, by_key⟩⟩
      obtain ⟨payload, signed⟩ := signed
      by_cases said : ∃ claims, Says payload claims
      case neg =>
        exact Or.inr ⟨_, .payload keyed inOrder signed fun claims stated => said ⟨claims, stated⟩⟩
      obtain ⟨claims, stated⟩ := said
      have opened : Opened keys token claims :=
        ⟨compact, header, pair, payload, keyed, inOrder, signed, stated⟩
      by_cases inside : claims.HoldAt leeway now
      case neg => exact Or.inr ⟨_, .time opened inside⟩
      by_cases addressed : ∀ required, audience = some required → claims.audience = some required
      case neg =>
        obtain ⟨required, other⟩ := not_forall.mp addressed
        obtain ⟨wanted, differs⟩ := Classical.not_imp.mp other
        exact Or.inr ⟨_, .audience opened inside wanted differs⟩
      exact Or.inl ⟨claims, opened, inside, addressed⟩

theorem validate_eq_error_iff (keys : KeyStore) (leeway : Nat) (audience : Option String)
    (now : Int64) (token : String) (error : CredentialError) :
    (Validator.mk keys (Claims.leewayOf leeway) audience).validate now token = .error error ↔
      Refuses keys leeway audience now token error := by
  constructor
  · intro refused
    rcases accepts_or_refuses keys leeway audience now token with ⟨_, accepts⟩ | ⟨other, refuses⟩
    · rw [validate_of_accepts accepts] at refused
      cases refused
    · rw [validate_of_refuses refuses] at refused
      exact Except.error.inj refused ▸ refuses
  · exact validate_of_refuses

theorem validate_eq_ok_iff_accepts (keys : KeyStore) (leeway : Nat) (audience : Option String)
    (now : Int64) (token : String) (claims : Claims) :
    (Validator.mk keys (Claims.leewayOf leeway) audience).validate now token = .ok claims ↔
      Accepts keys leeway audience now token claims := by
  constructor
  · intro accepted
    rcases accepts_or_refuses keys leeway audience now token with ⟨other, accepts⟩ | ⟨_, refuses⟩
    · rw [validate_of_accepts accepts] at accepted
      exact Except.ok.inj accepted ▸ accepts
    · rw [validate_of_refuses refuses] at accepted
      cases accepted
  · exact validate_of_accepts

/-- A header that is no object makes a token malformed unless the first text of a pair names another
algorithm or the second a key that is not loaded. -/
theorem malformed_iff_of_not_object (keys : KeyStore) (leeway : Nat) (audience : Option String)
    (now : Int64) {token : String} {compact : Compact} {header : Bytes} {tree : Json.Tree}
    (segments : Segments token compact) (decoded : compact.headerOctets? = some header)
    (parsed : Json.Tree.parse? header = some tree) (noObject : ∀ written, tree ≠ .object written) :
    (Validator.mk keys (Claims.leewayOf leeway) audience).validate now token = .error .malformed ↔
      ∀ hint, KeyHint.Written header hint →
        hint.algorithm = "RS256" ∧ ∃ pair, keys.get? hint.kid = some pair := by
  have disordered : ¬ InOrder header := by
    rintro ⟨written, _, sameParsed, _⟩
    rw [parsed] at sameParsed
    cases sameParsed
    exact noObject written rfl
  constructor
  · rintro malformed ⟨algorithm, kid⟩ written
    have asks : Asks token compact header ⟨algorithm, kid⟩ := ⟨segments, decoded, written⟩
    by_cases named : algorithm = "RS256"
    · subst named
      cases found : keys.get? kid with
      | some pair => exact ⟨rfl, pair, rfl⟩
      | none =>
          rw [validate_of_refuses (.key asks found)] at malformed
          cases malformed
    · rw [validate_of_refuses (.algorithm asks named)] at malformed
      cases malformed
  · intro hints
    by_cases asked : ∃ hint, KeyHint.Written header hint
    · obtain ⟨⟨algorithm, kid⟩, written⟩ := asked
      obtain ⟨named, pair, found⟩ := hints _ written
      obtain rfl : algorithm = "RS256" := named
      obtain rfl : pair.kid = kid := (KeyStore.mem_of_get? found).2
      exact validate_of_refuses (.header ⟨⟨segments, decoded, written⟩, found⟩ disordered)
    · apply validate_of_refuses
      refine .form fun other octets hint asks => asked ⟨hint, ?_⟩
      cases segments.unique asks.segments
      have sameOctets := asks.decoded
      rw [decoded] at sameOctets
      exact Option.some.inj sameOctets ▸ asks.written

/-- A token that asks for a loaded key and is not signed under it is malformed exactly if its header
is not in order. -/
theorem malformed_iff_of_unsigned {keys : KeyStore} (leeway : Nat) (audience : Option String)
    (now : Int64) {token : String} {compact : Compact} {header : Bytes} {pair : KeyPair}
    (keyed : Keyed keys token compact header pair)
    (unsigned : ∀ payload, ¬ SignedBy pair compact payload) :
    (Validator.mk keys (Claims.leewayOf leeway) audience).validate now token = .error .malformed ↔
      ¬ InOrder header := by
  constructor
  · intro malformed inOrder
    rw [validate_of_refuses (.signature keyed inOrder unsigned)] at malformed
    cases malformed
  · exact fun disordered => validate_of_refuses (.header keyed disordered)

/-- A token is refused with the error of the first check that it fails, and accepted if it fails
none. A header is not refused for being no object, but for not naming a key or, once it has led to
a loaded key, for not being in order; and then it does not matter whether the token is signed. -/
theorem validate_classified (keys : KeyStore) (leeway : Nat) (audience : Option String)
    (now : Int64) (token : String) :
    let result := (Validator.mk keys (Claims.leewayOf leeway) audience).validate now token
    (∀ error, result = .error error ↔ Refuses keys leeway audience now token error) ∧
    (∀ claims, result = .ok claims ↔ Accepts keys leeway audience now token claims) ∧
    (∀ compact header tree, Segments token compact → compact.headerOctets? = some header →
      Json.Tree.parse? header = some tree → (∀ written, tree ≠ .object written) →
      (result = .error .malformed ↔ ∀ hint, KeyHint.Written header hint →
        hint.algorithm = "RS256" ∧ ∃ pair, keys.get? hint.kid = some pair)) ∧
    (∀ compact header pair, Keyed keys token compact header pair →
      (∀ payload, ¬ SignedBy pair compact payload) →
      (result = .error .malformed ↔ ¬ InOrder header)) := by
  intro result
  refine ⟨validate_eq_error_iff keys leeway audience now token,
    validate_eq_ok_iff_accepts keys leeway audience now token, ?_, ?_⟩
  · intro compact header tree segments decoded parsed noObject
    exact malformed_iff_of_not_object keys leeway audience now segments decoded parsed noObject
  · intro compact header pair keyed unsigned
    exact malformed_iff_of_unsigned leeway audience now keyed unsigned

/-- A token with a header and no good signature. -/
def unsignedToken (header : String) : Compact :=
  ⟨Base64.encodeUrl (Utf8.encode header), "e30".toList, "c2ln".toList⟩

private theorem asks_unsignedToken {header : String} {hint : KeyHint}
    (read : (Json.Tree.parse? (Utf8.encode header)).bind KeyHint.ofTree? = some hint) :
    Asks (unsignedToken header).render (unsignedToken header) (Utf8.encode header) hint := by
  have filled : Utf8.encode header ≠ [] := by
    intro empty
    rw [empty] at read
    cases read
  exact {
    segments := {
      written := rfl
      filled := ⟨Base64.encodeUrl_ne_nil filled, by simp [unsignedToken], by simp [unsignedToken]⟩
      dotless := ⟨Base64.dot_not_mem_encodeUrl _, by simp [unsignedToken], by simp [unsignedToken]⟩ }
    decoded := Base64.decodeUrl?_encodeUrl _
    written := (KeyHint.written_iff _ _).mp read }

/-- A pair of two texts that names another algorithm, for a header. -/
def pairHeader : String := "[\"HS256\",\"main\"]"

/-- A header with a number where the standard asks for a text. -/
def looseHeader : String := "\x7b\"alg\":\"RS256\",\"kid\":\"main\",\"x\":1\x7d"

/-- A token with an array for a header is refused for its algorithm, and so it is not malformed;
a member that is not in order makes a token malformed whose signature does not verify. -/
theorem validate_classified_example :
    Json.Tree.parse? (Utf8.encode pairHeader) =
      some (.array [.string (Utf8.encode "HS256"), .string (Utf8.encode "main")]) ∧
    (Validator.mk exampleStore (Claims.leewayOf 0) none).validate 300
      (unsignedToken pairHeader).render ≠ .error .malformed ∧
    (Validator.mk exampleStore (Claims.leewayOf 0) none).validate 300
      (unsignedToken pairHeader).render = .error .signature ∧
    (∃ pair, Keyed exampleStore (unsignedToken looseHeader).render (unsignedToken looseHeader)
        (Utf8.encode looseHeader) pair ∧
      ∀ payload, ¬ SignedBy pair (unsignedToken looseHeader) payload) ∧
    (Validator.mk exampleStore (Claims.leewayOf 0) none).validate 300
      (unsignedToken looseHeader).render = .error .malformed := by
  have pairParsed : Json.Tree.parse? (Utf8.encode pairHeader) =
      some (.array [.string (Utf8.encode "HS256"), .string (Utf8.encode "main")]) := rfl
  have pairRead : (Json.Tree.parse? (Utf8.encode pairHeader)).bind KeyHint.ofTree? =
      some ⟨"HS256", "main"⟩ := by decide +kernel
  have looseRead : (Json.Tree.parse? (Utf8.encode looseHeader)).bind KeyHint.ofTree? =
      some ⟨"RS256", "main"⟩ := by decide +kernel
  have looseNames : (Json.Tree.parse? (Utf8.encode looseHeader)).bind Jws.Header.algorithm? =
      none := by decide +kernel
  have pairAsks := asks_unsignedToken pairRead
  have looseAsks := asks_unsignedToken looseRead
  have keyed : Keyed exampleStore (unsignedToken looseHeader).render (unsignedToken looseHeader)
      (Utf8.encode looseHeader) ⟨"main", exampleKey, exampleKey_check⟩ := ⟨looseAsks, rfl⟩
  have unsigned : ∀ payload, ¬ SignedBy ⟨"main", exampleKey, exampleKey_check⟩
      (unsignedToken looseHeader) payload := by
    intro payload signed
    have octets : (unsignedToken looseHeader).signatureOctets? = some [0x73, 0x69, 0x67] := by
      decide
    exact Credential.not_verifiesUnder octets (by decide +kernel) signed.verifies
  have disordered : ¬ InOrder (Utf8.encode looseHeader) := by
    intro inOrder
    rw [Jws.Header.algorithm?_of_inOrder .rs256 looseAsks.written rfl inOrder]
      at looseNames
    cases looseNames
  obtain ⟨refused, _, noObject, _⟩ :=
    validate_classified exampleStore 0 none 300 (unsignedToken pairHeader).render
  obtain ⟨_, _, _, unsignedMalformed⟩ :=
    validate_classified exampleStore 0 none 300 (unsignedToken looseHeader).render
  have notMalformed := (noObject _ _ _ pairAsks.segments pairAsks.decoded pairParsed
    fun _ same => by cases same).not.mpr fun hints =>
      absurd (hints _ pairAsks.written).1 (by decide)
  exact ⟨pairParsed, notMalformed, (refused _).mpr (.algorithm pairAsks (by decide)),
    ⟨_, keyed, unsigned⟩, (unsignedMalformed _ _ _ keyed unsigned).mpr disordered⟩

end Validator

end Turnstile
