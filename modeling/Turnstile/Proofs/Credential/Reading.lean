import Turnstile.Proofs.Claims.Handover
import Turnstile.Proofs.Credential.RoundTrip
import Turnstile.Proofs.Jws.Verify
set_option autoImplicit false

/-! How accepted credentials are read. A validator accepts what passes each of its checks; a token
that is vouched for is read from two objects, and each of them is read in more than one way. -/

namespace Turnstile

/-! ### The checks of a validator -/

/-- A credential has a form exactly if it has three filled parts and a header that asks for
a key. -/
theorem Credential.parse_eq_ok_iff (token : String) (compact : Jws.Compact) (hint : Jws.KeyHint) :
    parse token = .ok (compact, hint) ↔
      Jws.Compact.ofText? token = some compact ∧ compact.isComplete = true ∧
        (compact.headerOctets?.bind Json.Tree.parse?).bind Jws.KeyHint.ofTree? = some hint := by
  unfold parse
  cases Jws.Compact.ofText? token with
  | none => simp
  | some parts =>
      cases complete : parts.isComplete with
      | false =>
          simp only [complete, Bool.not_false, if_true]
          constructor
          · intro same
            cases same
          · rintro ⟨same, filled, _⟩
            cases same
            rw [complete] at filled
            cases filled
      | true =>
          simp only [complete, Bool.not_true, Bool.false_eq_true, if_false]
          cases read : (parts.headerOctets?.bind Json.Tree.parse?).bind Jws.KeyHint.ofTree? with
          | none =>
              constructor
              · intro same
                cases same
              · rintro ⟨same, _, found⟩
                cases same
                rw [read] at found
                cases found
          | some found =>
              constructor
              · intro same
                cases same
                exact ⟨rfl, complete, read⟩
              · rintro ⟨same, _, other⟩
                cases same
                rw [read] at other
                cases other
                rfl

theorem Validator.openClaims_eq_ok_iff (key : Rsa.PublicKey) (compact : Jws.Compact)
    (claims : Claims) :
    openClaims key compact = .ok claims ↔
      Jws.openWith Claims.ofTree? Credential.algorithm (some key) compact = .ok claims := by
  unfold openClaims
  cases Jws.openWith Claims.ofTree? Credential.algorithm (some key) compact with
  | ok opened => simp
  | error fault => cases fault <;> simp

/-- A validator accepts a credential exactly if it passes every check. -/
theorem Validator.validate_eq_ok_iff (validator : Validator) (now : Int64) (token : String)
    (claims : Claims) :
    validator.validate now token = .ok claims ↔
      ∃ compact hint pair, Credential.parse token = .ok (compact, hint) ∧
        hint.algorithm = Credential.algorithm.name ∧ validator.keys.get? hint.kid = some pair ∧
        Jws.openWith Claims.ofTree? Credential.algorithm (some pair.publicKey) compact =
          .ok claims ∧
        claims.isLiveAt now validator.leeway = true ∧ validator.acceptsAudience claims = true := by
  unfold validate
  constructor
  · intro accepted
    split at accepted
    · cases accepted
    · rename_i compact hint parsed
      by_cases named : hint.algorithm ≠ Credential.algorithm.name
      · rw [if_pos named] at accepted
        cases accepted
      · rw [if_neg named] at accepted
        split at accepted
        · cases accepted
        · rename_i pair found
          split at accepted
          · cases accepted
          · rename_i opened openedClaims
            cases live : opened.isLiveAt now validator.leeway with
            | false => simp [live] at accepted
            | true =>
                cases audience : validator.acceptsAudience opened with
                | false => simp [live, audience] at accepted
                | true =>
                    simp only [live, audience, Bool.not_true, Bool.false_eq_true, if_false,
                      Except.ok.injEq] at accepted
                    subst accepted
                    exact ⟨compact, hint, pair, parsed, Decidable.not_not.mp named, found,
                      (openClaims_eq_ok_iff _ _ _).mp openedClaims, live, audience⟩
  · rintro ⟨compact, hint, pair, parsed, named, found, opened, live, audience⟩
    simp only [parsed, named, ne_eq, not_true_eq_false, if_false, found,
      (openClaims_eq_ok_iff _ _ _).mpr opened, live, audience, Bool.not_true, Bool.false_eq_true]

/-! ### The objects of a token -/

namespace Json.Tree

theorem object_of_members? {tree : Tree} {members : List (String × Tree)}
    (found : tree.members? = some members) :
    ∃ written, tree = .object written ∧ namedMembers? written = some members := by
  unfold members? at found
  split at found
  · exact ⟨_, rfl, found⟩
  · cases found

end Json.Tree

namespace Jws

theorem KeyHint.members_of_ofTree? {written : List (Bytes × Json.Tree)}
    {members : List (String × Json.Tree)} {hint : KeyHint}
    (named : Json.Tree.namedMembers? written = some members)
    (read : ofTree? (.object written) = some hint) :
    Json.Tree.eachAtMostOnce ["alg", "kid"] members = true ∧
      Json.Tree.required? "alg" Json.Tree.text? members = some hint.algorithm ∧
      Json.Tree.required? "kid" Json.Tree.text? members = some hint.kid := by
  rw [ofTree?, named, Option.bind_eq_bind, Option.bind_some] at read
  obtain ⟨once, read⟩ : Json.Tree.eachAtMostOnce ["alg", "kid"] members = true ∧ _ := by
    simpa using read
  obtain ⟨algorithm, algorithmFound, read⟩ := Option.bind_eq_some_iff.mp read
  obtain ⟨kid, kidFound, same⟩ := Option.bind_eq_some_iff.mp read
  cases same
  exact ⟨once, algorithmFound, kidFound⟩

end Jws

namespace Credential

/-- What a token is read as on the way to its claims: its parts, the octets of its header and
payload, and the objects in them, with the keys of their members as written and as read. -/
structure Reading where
  compact : Jws.Compact
  headerOctets : Bytes
  header : List (Bytes × Json.Tree)
  headerMembers : List (String × Json.Tree)
  payloadOctets : Bytes
  payload : List (Bytes × Json.Tree)
  payloadMembers : List (String × Json.Tree)

/-- The reading of a token that a key vouches for, with claims. -/
structure ReadAs (pair : KeyPair) (token : String) (claims : Claims) (reading : Reading) :
    Prop where
  form : Jws.Compact.ofText? token = some reading.compact
  complete : reading.compact.isComplete = true
  headerFound : reading.compact.headerOctets? = some reading.headerOctets
  headerParsed : Json.Tree.parse? reading.headerOctets = some (.object reading.header)
  headerNamed : Json.Tree.namedMembers? reading.header = some reading.headerMembers
  headerOnce : Json.Tree.eachAtMostOnce ["alg", "kid"] reading.headerMembers = true
  algorithm : Json.Tree.required? "alg" Json.Tree.text? reading.headerMembers = some "RS256"
  kid : Json.Tree.required? "kid" Json.Tree.text? reading.headerMembers = some pair.kid
  inOrder : Jws.Header.algorithm? (.object reading.header) = some Credential.algorithm
  verified : Jws.verifiedPayload Credential.algorithm (some pair.publicKey) reading.compact =
    .ok reading.payloadOctets
  payloadParsed : Json.Tree.parse? reading.payloadOctets = some (.object reading.payload)
  payloadNamed : Json.Tree.namedMembers? reading.payload = some reading.payloadMembers
  said : Claims.ofMembers? reading.payloadMembers = some claims
  readable : Jws.hasReadableClaims (.object reading.payload) = true

section Reading

variable {pair : KeyPair} {token : String} {claims : Claims} {reading : Reading}

theorem ReadAs.readFrom (read : ReadAs pair token claims reading) :
    Claims.ReadFrom reading.payloadMembers claims :=
  Claims.readFrom_of_ofMembers? read.said

theorem ReadAs.headerTyped (read : ReadAs pair token claims reading) :
    (reading.headerMembers.all fun (key, tree) => Jws.Header.isWellTyped key tree) = true := by
  obtain ⟨members, object, _, typed, _⟩ := Jws.Header.members_of_algorithm? read.inOrder
  rw [Json.Tree.members?, read.headerNamed] at object
  cases object
  exact typed

theorem ReadAs.signed (read : ReadAs pair token claims reading) :
    ∃ signature, reading.compact.signatureOctets? = some signature ∧
      Rsa.verifies pair.publicKey .sha256 reading.compact.signedOctets signature = true ∧
      reading.compact.payloadOctets? = some reading.payloadOctets := by
  obtain ⟨_, _, _, _, signature, _, _, _, hash, same, found, holds, payloadFound⟩ :=
    (Jws.verifiedPayload_eq_ok_iff _ _ _ _).mp read.verified
  cases same
  cases hash
  exact ⟨signature, found, holds, payloadFound⟩

theorem ReadAs.payloadFound (read : ReadAs pair token claims reading) :
    reading.compact.payloadOctets? = some reading.payloadOctets := by
  obtain ⟨_, _, _, found⟩ := read.signed
  exact found

/-- A vouched token has a reading, and asks for the key that vouches for it. -/
theorem Vouched.exists_readAs {keys : KeyStore} (vouched : Vouched keys pair token claims) :
    Credential.kid token = .ok pair.kid ∧ keys.get? pair.kid = some pair ∧
      ∃ reading, ReadAs pair token claims reading := by
  obtain ⟨compact, hint, parsed, named, found, opened⟩ := vouched
  obtain ⟨form, complete, hintRead⟩ := (parse_eq_ok_iff _ _ _).mp parsed
  have openedWith := (Validator.openClaims_eq_ok_iff _ _ _).mp opened
  obtain ⟨payloadOctets, payloadTree, verified, payloadParsed, claimsRead, readable⟩ :=
    (Jws.openWith_eq_ok_iff _ _ _ _ _).mp openedWith
  obtain ⟨headerOctets, headerTree, _, _, _, headerFound, headerParsed, algorithmRead, _⟩ :=
    (Jws.verifiedPayload_eq_ok_iff _ _ _ _).mp verified
  rw [headerFound, Option.bind_some, headerParsed, Option.bind_some] at hintRead
  obtain ⟨headerMembers, headerObject, _⟩ := Jws.Header.members_of_algorithm? algorithmRead
  obtain ⟨header, rfl, headerNamed⟩ := Json.Tree.object_of_members? headerObject
  obtain ⟨once, algorithmFound, kidFound⟩ := Jws.KeyHint.members_of_ofTree? headerNamed hintRead
  obtain ⟨payloadMembers, payloadObject, _⟩ := Jws.members_of_hasReadableClaims readable
  obtain ⟨payload, rfl, payloadNamed⟩ := Json.Tree.object_of_members? payloadObject
  rw [Claims.ofTree?, payloadNamed, Option.bind_some] at claimsRead
  have kidOfPair : pair.kid = hint.kid := (KeyStore.mem_of_get? found).2
  refine ⟨by rw [Credential.kid, parsed, kidOfPair]; rfl, kidOfPair ▸ found,
    ⟨compact, headerOctets, header, headerMembers, payloadOctets, payload, payloadMembers⟩, ?_⟩
  exact {
    form := form
    complete := complete
    headerFound := headerFound
    headerParsed := headerParsed
    headerNamed := headerNamed
    headerOnce := once
    algorithm := by rw [algorithmFound, named]; rfl
    kid := by rw [kidFound, kidOfPair]
    inOrder := algorithmRead
    verified := verified
    payloadParsed := payloadParsed
    payloadNamed := payloadNamed
    said := claimsRead
    readable := readable }

end Reading

end Credential

theorem Validator.vouched_of_validate {validator : Validator} {now : Int64} {token : String}
    {claims : Claims} (accepted : validator.validate now token = .ok claims) :
    ∃ pair, Credential.Vouched validator.keys pair token claims := by
  obtain ⟨compact, hint, pair, parsed, named, found, opened, _⟩ :=
    (validate_eq_ok_iff _ _ _ _).mp accepted
  exact ⟨pair, compact, hint, parsed, named, found, (openClaims_eq_ok_iff _ _ _).mpr opened⟩

end Turnstile
