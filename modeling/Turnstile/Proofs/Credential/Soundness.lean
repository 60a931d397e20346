import Turnstile.Proofs.Claims.Window
import Turnstile.Proofs.Credential.Reading
set_option autoImplicit false

/-! Accepted credentials are genuine. A token is read in several ways before its claims are given
out; all of them agree on what is accepted, however hostile the token is. -/

namespace Turnstile

/-! ### Genuine credentials -/

namespace Credential

/-- The octets that the three parts of a credential are written from. -/
structure Parts where
  header : Bytes
  payload : Bytes
  signature : Bytes

/-- The three parts, each in base 64 without padding. -/
def Parts.compact (parts : Parts) : Jws.Compact where
  header := Base64.encodeUrl parts.header
  payload := Base64.encodeUrl parts.payload
  signature := Base64.encodeUrl parts.signature

/-- Octets are an object that has one member of a key, and this is a text. -/
def NamesOnce (octets : Bytes) (key text : String) : Prop :=
  ∃ written members, Json.Tree.parse? octets = some (.object written) ∧
    Json.Tree.namedMembers? written = some members ∧
    Json.Tree.occurrences key members = 1 ∧
    Json.Tree.required? key Json.Tree.text? members = some text

/-- Octets are an object whose members are read as claims. -/
def Says (octets : Bytes) (claims : Claims) : Prop :=
  ∃ written members, Json.Tree.parse? octets = some (.object written) ∧
    Json.Tree.namedMembers? written = some members ∧ Claims.ofMembers? members = some claims

/-- A token that a key vouches for, with claims. -/
structure Genuine (pair : KeyPair) (parts : Parts) (token : String) (claims : Claims) : Prop where
  written : token = parts.compact.render
  filled : parts.compact.header ≠ [] ∧ parts.compact.payload ≠ [] ∧ parts.compact.signature ≠ []
  dotless : '.' ∉ parts.compact.header ∧ '.' ∉ parts.compact.payload ∧
    '.' ∉ parts.compact.signature
  algorithm : NamesOnce parts.header "alg" "RS256"
  kid : NamesOnce parts.header "kid" pair.kid
  verified : Rsa.verifies pair.publicKey .sha256
    (Utf8.encodeChars (parts.compact.header ++ '.' :: parts.compact.payload)) parts.signature = true
  statement : Says parts.payload claims
  roles : ∀ role ∈ claims.roles, role.name = "ADMIN" ∨ role.name = "USER"

end Credential

namespace Json.Tree

theorem occurrences_pos {key : String} {members : List (String × Tree)} {tree : Tree}
    (found : lookup? key members = some tree) : 0 < occurrences key members := by
  induction members with
  | nil => cases found
  | cons member rest ih =>
      obtain ⟨name, value⟩ := member
      unfold lookup? at found
      by_cases same : name = key
      · simp [occurrences, same]
      · rw [if_neg same] at found
        have later := ih found
        unfold occurrences at later ⊢
        rw [List.filter_cons_of_neg (by simpa using same)]
        exact later

theorem occurrences_eq_one {Value : Type} {known : List String} {key : String}
    {members : List (String × Tree)} {read : Tree → Option Value} {value : Value}
    (once : eachAtMostOnce known members = true) (member : key ∈ known)
    (found : required? key read members = some value) : occurrences key members = 1 := by
  obtain ⟨tree, lookedUp, _⟩ := Option.bind_eq_some_iff.mp found
  have positive := occurrences_pos lookedUp
  have most : occurrences key members ≤ 1 :=
    of_decide_eq_true (List.all_eq_true.mp once key member)
  omega

end Json.Tree

/-! ### Soundness -/

private theorem parts_of_opened {compact : Jws.Compact} {header payload signature : Bytes}
    (headerRead : compact.headerOctets? = some header)
    (payloadRead : compact.payloadOctets? = some payload)
    (signatureRead : compact.signatureOctets? = some signature) :
    (Credential.Parts.mk header payload signature).compact = compact := by
  obtain ⟨headerText, payloadText, signatureText⟩ := compact
  rw [Credential.Parts.compact, Base64.encodeUrl_of_decodeUrl? headerRead,
    Base64.encodeUrl_of_decodeUrl? payloadRead, Base64.encodeUrl_of_decodeUrl? signatureRead]

theorem Credential.Vouched.exists_genuine {keys : KeyStore} {pair : KeyPair} {token : String}
    {claims : Claims} (vouched : Vouched keys pair token claims) :
    ∃ parts, keys.get? pair.kid = some pair ∧ Genuine pair parts token claims := by
  obtain ⟨_, found, reading, read⟩ := vouched.exists_readAs
  obtain ⟨signature, signatureFound, holds, payloadFound⟩ := read.signed
  obtain ⟨text, dotless⟩ := Jws.Compact.eq_render_of_ofText? read.form
  have written := parts_of_opened read.headerFound payloadFound signatureFound
  refine ⟨⟨reading.headerOctets, reading.payloadOctets, signature⟩, found, ?_⟩
  exact {
    written := by rw [written]; exact text
    filled := by
      rw [written]
      simpa [Jws.Compact.isComplete, and_assoc] using read.complete
    dotless := by rw [written]; exact dotless
    algorithm := ⟨reading.header, reading.headerMembers, read.headerParsed, read.headerNamed,
      Json.Tree.occurrences_eq_one read.headerOnce (by simp) read.algorithm, read.algorithm⟩
    kid := ⟨reading.header, reading.headerMembers, read.headerParsed, read.headerNamed,
      Json.Tree.occurrences_eq_one read.headerOnce (by simp) read.kid, read.kid⟩
    verified := by rw [written]; exact holds
    statement := ⟨reading.payload, reading.payloadMembers, read.payloadParsed, read.payloadNamed,
      read.said⟩
    roles := by
      intro role _
      cases role with
      | admin => exact Or.inl rfl
      | user => exact Or.inr rfl }

theorem Validator.genuine_of_validate {validator : Validator} {now : Int64} {token : String}
    {claims : Claims} (accepted : validator.validate now token = .ok claims) :
    ∃ pair parts, validator.keys.get? pair.kid = some pair ∧
      Credential.Genuine pair parts token claims := by
  obtain ⟨pair, vouched⟩ := vouched_of_validate accepted
  exact ⟨pair, vouched.exists_genuine⟩

/-- Whatever a validator accepts is a token of exactly three parts that a loaded key vouches for
under its own identifier, with claims that hold at this second and for this audience. -/
theorem validate_sound {keys : KeyStore} {seconds : Nat} {audience : Option String} {now : Int64}
    {token : String} {claims : Claims}
    (accepted : (Validator.mk keys (Claims.leewayOf seconds) audience).validate now token =
      .ok claims) :
    (∃ pair parts, keys.get? pair.kid = some pair ∧
        Credential.Genuine pair parts token claims) ∧
      token.toList.count '.' = 2 ∧
      claims.notBefore.toInt - min (seconds : Int) 0x7fffffffffffffff ≤ now.toInt ∧
      now.toInt ≤ claims.expires.toInt + min (seconds : Int) 0x7fffffffffffffff ∧
      ∀ required, audience = some required → claims.audience = some required := by
  have genuine := Validator.genuine_of_validate accepted
  obtain ⟨_, _, _, _, _, _, _, live, audienceAccepted⟩ :=
    (Validator.validate_eq_ok_iff _ _ _ _).mp accepted
  obtain ⟨notBefore, expires⟩ := (Claims.isLiveAt_leewayOf _ _ _).mp live
  refine ⟨genuine, ?_, notBefore, expires, ?_⟩
  · obtain ⟨pair, parts, _, facts⟩ := genuine
    have dots := facts.dotless
    rw [facts.written, Jws.Compact.render, Jws.Compact.signedText, String.toList_ofList]
    simp [List.count_append, List.count_eq_zero_of_not_mem dots.1,
      List.count_eq_zero_of_not_mem dots.2.1, List.count_eq_zero_of_not_mem dots.2.2]
  · intro required asked
    rw [asked] at audienceAccepted
    simpa [Validator.acceptsAudience] using audienceAccepted

theorem validate_sound_example :
    ∃ token pair parts,
      (Validator.mk exampleStore (Claims.leewayOf 60) none).validate 90 token =
        .ok exampleClaims ∧
      exampleStore.get? pair.kid = some pair ∧
      Credential.Genuine pair parts token exampleClaims ∧ (100 : Int) - 60 ≤ 90 := by
  obtain ⟨token, validated⟩ := validate_exampleToken
  have accepted : (Validator.mk exampleStore (Claims.leewayOf 60) none).validate 90 token =
      .ok exampleClaims := by
    rw [validated, if_neg (by decide)]
  obtain ⟨⟨pair, parts, found, genuine⟩, _, notBefore, _⟩ := validate_sound accepted
  exact ⟨token, pair, parts, accepted, found, genuine, notBefore⟩

end Turnstile
