import Turnstile.Proofs.Claims.Payload
import Turnstile.Proofs.Policy.TokenCheck
set_option autoImplicit false

/-! Two readings of one token. A validator reads typed members of the header and the payload and
passes over the others; the token check builds both objects whole and keeps the last of several
members with one key. On a token that a validator accepts they agree, and if its payload has no
members but claims, the token check finds its parts whenever the validator does. -/

namespace Turnstile

/-! ### Built headers -/

namespace Json.Tree

theorem buildItems?_of_each?_text? {items : List Tree} {texts : List String}
    (read : each? text? items = some texts) (depth : Nat) :
    buildItems? depth items = some (texts.map .string) := by
  induction items generalizing texts with
  | nil =>
      cases read
      rfl
  | cons item rest ih =>
      rw [each?] at read
      split at read
      · rename_i text others readText readRest
        cases read
        rw [buildItems?, build?_of_text? readText, ih readRest]
        rfl
      · cases read

end Json.Tree

namespace Jws.Header

theorem isSome_build?_of_isWellTyped {key : String} {tree : Json.Tree}
    (typed : isWellTyped key tree = true) :
    (tree.build? (Json.depthLimit - 1)).isSome = true := by
  unfold isWellTyped at typed
  split at typed
  · obtain ⟨text, read⟩ := Option.isSome_iff_exists.mp typed
    rw [Json.Tree.build?_of_optionalText? read]
    rfl
  · split at typed
    · unfold isOptionalTextList at typed
      split at typed
      · rfl
      · obtain ⟨texts, read⟩ := Option.isSome_iff_exists.mp typed
        unfold Json.Tree.list? at read
        split at read
        · rw [show Json.depthLimit - 1 = 125 + 1 from rfl, Json.Tree.build?,
            Json.Tree.buildItems?_of_each?_text? read]
          rfl
        · cases read
    · split at typed
      · unfold isOptionalKey at typed
        split at typed
        · rfl
        · exact (Bool.and_eq_true _ _ ▸ typed).1
        · cases typed
      · obtain ⟨text, read⟩ := Option.isSome_iff_exists.mp typed
        rw [Json.Tree.build?_of_text? read]
        rfl

theorem exists_build?_of_algorithm? {tree : Json.Tree} {algorithm : Algorithm}
    (named : algorithm? tree = some algorithm) :
    ∃ header, Policy.objectOfTree? tree = some header := by
  obtain ⟨members, object, _, typed, _⟩ := members_of_algorithm? named
  obtain ⟨written, rfl, read⟩ := Json.Tree.object_of_members? object
  exact Json.exists_build? read fun member inside =>
    isSome_build?_of_isWellTyped (List.all_eq_true.mp typed member inside)

end Jws.Header

theorem Json.lookup?_of_required?_text? {depth : Nat} {written : List (Bytes × Json.Tree)}
    {members : List (String × Json.Tree)} {values : List (String × Json)} {key text : String}
    (named : Json.Tree.namedMembers? written = some members)
    (built : ((Json.Tree.object written).build? (depth + 1)).bind Json.object? = some values)
    (once : Json.Tree.occurrences key members ≤ 1)
    (read : Json.Tree.required? key Json.Tree.text? members = some text) :
    Json.lookup? key values = some (.string text) := by
  obtain ⟨tree, found, readTree⟩ := Option.bind_eq_some_iff.mp read
  rw [Json.lookup?_of_build? named built once, found, Option.bind_some,
    Json.Tree.build?_of_text? readTree]

theorem Jws.Header.lookup?_of_algorithm? {tree : Json.Tree} {algorithm : Algorithm}
    {header : List (String × Json)} (named : algorithm? tree = some algorithm)
    (built : Policy.objectOfTree? tree = some header) :
    Json.lookup? "alg" header = some (.string algorithm.name) := by
  obtain ⟨members, object, once, _, found⟩ := members_of_algorithm? named
  obtain ⟨written, rfl, read⟩ := Json.Tree.object_of_members? object
  obtain ⟨text, member, known⟩ := Option.bind_eq_some_iff.mp found
  rw [Algorithm.name_of_ofName? known]
  exact Json.lookup?_of_required?_text? read built
    (of_decide_eq_true (List.all_eq_true.mp once "alg" (by simp))) member

/-! ### Agreement -/

namespace Policy

/-- The parts of a token that the token check gives out agree with its claims: the header has the
one algorithm that is allowed and the key that the token asks for, and the claims are what the
payload says. -/
structure Agree (header payload : List (String × Json)) (kid : String) (claims : Claims) :
    Prop where
  algorithm : Json.lookup? "alg" header = some (.string "RS256")
  kid : Json.lookup? "kid" header = some (.string kid)
  claims : Claims.SaidIn payload claims

section Vouched

variable {keys : KeyStore} {pair : KeyPair} {token : String} {claims : Claims}
  {reading : Credential.Reading}

private theorem namedKey_of_readAs {header : List (String × Json)}
    (read : Credential.ReadAs pair token claims reading)
    (built : objectOfTree? (.object reading.header) = some header) :
    Json.lookup? "alg" header = some (.string "RS256") ∧
      Json.lookup? "kid" header = some (.string pair.kid) := by
  have once : ∀ key ∈ ["alg", "kid"], Json.Tree.occurrences key reading.headerMembers ≤ 1 :=
    fun key known => of_decide_eq_true (List.all_eq_true.mp read.headerOnce key known)
  exact ⟨Json.lookup?_of_required?_text? read.headerNamed built (once _ (by simp)) read.algorithm,
    Json.lookup?_of_required?_text? read.headerNamed built (once _ (by simp)) read.kid⟩

/-- Whatever the key, the parts that are given out of a vouched token agree with its claims. -/
theorem agree_of_signedParts? {key : Option Rsa.PublicKey} {header payload : List (String × Json)}
    (vouched : Credential.Vouched keys pair token claims)
    (signed : signedParts? key token = some (header, payload)) :
    Agree header payload pair.kid claims := by
  obtain ⟨_, _, reading, read⟩ := vouched.exists_readAs
  obtain ⟨headerBuilt, payloadBuilt⟩ := built_of_signedParts? read signed
  obtain ⟨algorithm, kid⟩ := namedKey_of_readAs read headerBuilt
  exact ⟨algorithm, kid, Claims.saidIn_of_build? read.payloadNamed read.readFrom payloadBuilt⟩

private theorem exists_header (read : Credential.ReadAs pair token claims reading) :
    ∃ header, reading.compact.headerOctets?.bind objectOctets? = some header ∧
      acceptedAlgorithm? header = some Credential.algorithm := by
  obtain ⟨header, built⟩ := Jws.Header.exists_build?_of_algorithm? read.inOrder
  refine ⟨header, ?_, ?_⟩
  · rw [read.headerFound, Option.bind_some, objectOctets?, Json.parse?, read.headerParsed]
    exact built
  · rw [acceptedAlgorithm?, (namedKey_of_readAs read built).1]
    rfl

theorem exists_signedParts?_of_built (read : Credential.ReadAs pair token claims reading)
    {payload : List (String × Json)}
    (built : objectOfTree? (.object reading.payload) = some payload) :
    ∃ header, signedParts? (some pair.publicKey) token = some (header, payload) := by
  obtain ⟨header, headerBuilt, accepted⟩ := exists_header read
  have opened : Jws.openWith objectOfTree? Credential.algorithm (some pair.publicKey)
      reading.compact = .ok payload :=
    (Jws.openWith_eq_ok_iff _ _ _ _ _).mpr
      ⟨_, _, read.verified, read.payloadParsed, built, read.readable⟩
  exact ⟨header, signedParts?_eq_some_iff.mpr
    ⟨_, _, read.form, headerBuilt, accepted, opened⟩⟩

/-- Under its own key a vouched token with no members but claims in its payload has parts. -/
theorem exists_signedParts? (vouched : Credential.Vouched keys pair token claims)
    (known : Credential.OnlyClaims token) :
    ∃ header payload, signedParts? (some pair.publicKey) token = some (header, payload) := by
  obtain ⟨_, _, reading, read⟩ := vouched.exists_readAs
  obtain ⟨members, found, known⟩ := known
  rw [payloadMembers?_of_readAs read] at found
  cases found
  obtain ⟨payload, built⟩ :=
    Claims.exists_build?_of_known read.payloadNamed read.readFrom.typed known
  obtain ⟨header, signed⟩ := exists_signedParts?_of_built read built
  exact ⟨header, payload, signed⟩

end Vouched

theorem signedParts?_of_decodeVerify {wallSeconds : Int} {token : String} {constraints : Json}
    {parts : List (String × Json) × List (String × Json)}
    (checked : decodeVerify wallSeconds token constraints = .ok (some parts)) :
    ∃ key, signedParts? key token = some parts := by
  obtain ⟨wanted, octets, _, found⟩ := decodeVerify_eq_ok_iff.mp checked
  exact ⟨_, (Option.filter_eq_some_iff.mp found).1⟩

theorem agree_of_validate {validator : Validator} {now : Int64} {token : String} {claims : Claims}
    {key : Option Rsa.PublicKey} {header payload : List (String × Json)}
    (accepted : validator.validate now token = .ok claims)
    (signed : signedParts? key token = some (header, payload)) :
    ∃ kid pair, Credential.kid token = .ok kid ∧ validator.keys.get? kid = some pair ∧
      Agree header payload kid claims := by
  obtain ⟨pair, vouched⟩ := Validator.vouched_of_validate accepted
  obtain ⟨asked, found, _⟩ := vouched.exists_readAs
  exact ⟨pair.kid, pair, asked, found, agree_of_signedParts? vouched signed⟩

end Policy

end Turnstile
