import Turnstile.Proofs.Credential.Reading
import Turnstile.Proofs.Policy.Authentication
import Turnstile.Proofs.Policy.Constraints
set_option autoImplicit false

/-! The token check under the constraints of the embedded policy. With the public half of a loaded
key the constraints are never at fault; with a credential that has no unknown members the verdict
can always be handed on. -/

namespace Turnstile

/-! ### Credentials without unknown members -/

namespace Credential

/-- The members of the header of a token. -/
def headerMembers? (token : String) : Option (List (String × Json.Tree)) :=
  (Jws.Compact.ofText? token).bind fun compact =>
    (compact.headerOctets?.bind Json.Tree.parse?).bind Json.Tree.members?

/-- The members of the payload of a token. -/
def payloadMembers? (token : String) : Option (List (String × Json.Tree)) :=
  (Jws.Compact.ofText? token).bind fun compact =>
    (compact.payloadOctets?.bind Json.Tree.parse?).bind Json.Tree.members?

/-- The header has no members but algorithm, key and type, and the payload has none but claims. -/
def OnlyKnownMembers (token : String) : Prop :=
  (∃ members, headerMembers? token = some members ∧
    ∀ member ∈ members, member.1 ∈ ["alg", "kid", "typ"]) ∧
  ∃ members, payloadMembers? token = some members ∧ ∀ member ∈ members, member.1 ∈ Claims.keys

/-- The payload has no members but claims, whatever the header has. -/
def OnlyClaims (token : String) : Prop :=
  ∃ members, payloadMembers? token = some members ∧ ∀ member ∈ members, member.1 ∈ Claims.keys

theorem OnlyKnownMembers.onlyClaims {token : String} (only : OnlyKnownMembers token) :
    OnlyClaims token := only.2

theorem onlyKnownMembers_of_signClaims {pair : KeyPair} {claims : Claims} {token : String}
    (made : pair.signClaims claims = .ok token) : OnlyKnownMembers token := by
  obtain ⟨compact, form, header, payload⟩ := octets_of_signClaims made
  obtain ⟨headerMembers, headerRead, headerKnown⟩ :=
    Jws.Header.members?_render Credential.algorithm pair.kid
  obtain ⟨payloadMembers, payloadRead, payloadKnown⟩ := Claims.members?_render claims
  refine ⟨⟨headerMembers, ?_, headerKnown⟩, payloadMembers, ?_, payloadKnown⟩
  · rw [headerMembers?, form, Option.bind_some, header, Option.bind_some]
    exact headerRead
  · rw [payloadMembers?, form, Option.bind_some, payload, Option.bind_some]
    exact payloadRead

theorem vouched_of_issueClaims {keys : KeyStore} {kid token : String} {claims : Claims}
    (issued : keys.issueClaims kid claims = .ok token) :
    ∃ pair, keys.get? kid = some pair ∧ Credential.kid token = .ok kid ∧
      Vouched keys pair token claims ∧ OnlyKnownMembers token := by
  obtain ⟨pair, found, made⟩ := KeyStore.signed_of_issueClaims issued
  obtain ⟨vouched, asked⟩ := vouched_of_signClaims found made
  exact ⟨pair, found, asked, vouched, onlyKnownMembers_of_signClaims made⟩

end Credential

theorem Jws.Header.plain_of_isWellTyped {key : String} {tree : Json.Tree}
    (known : key ∈ ["alg", "kid", "typ"]) (typed : isWellTyped key tree = true) {depth : Nat}
    {value : Json} (built : tree.build? depth = some value) : value.Plain 0 := by
  simp only [List.mem_cons, List.not_mem_nil, or_false] at known
  rcases known with rfl | rfl | rfl
  · exact Json.Tree.plain_of_text? typed built
  · exact Json.Tree.plain_of_optionalText? typed built
  · exact Json.Tree.plain_of_optionalText? typed built

namespace Policy

/-! ### The constraints -/

namespace Embedded

def constraints (publicPem issuer : String) (now : Instant) : Constraints where
  cert := publicPem
  issuer := some issuer
  audience := none
  time := some (Number.int now.unixNanos).toBinary64

/-- What the token check of the policy finds under the key of a pair. -/
def verdict (pair : KeyPair) (token issuer : String) (now : Instant) : Verdict :=
  (signedParts? (Rsa.PublicKey.decode? pair.publicKey.encode) token).filter fun parts =>
    satisfies (constraints pair.publicPem issuer now)
      (secondsOf (Number.int now.unixNanos).toBinary64) parts.2

theorem ofJson_tokenConstraints {publicPem : String} (issuer : String) (now : Instant)
    (filled : publicPem ≠ "") :
    Constraints.ofJson (tokenConstraints publicPem issuer now) =
      .ok (constraints publicPem issuer now) := by
  have added : Constraints.none.addAll
      [("cert", .string publicPem), ("iss", .string issuer),
        ("time", .number (.int now.unixNanos))] = .ok (constraints publicPem issuer now) := rfl
  have cert : (constraints publicPem issuer now).cert = publicPem := rfl
  simp only [tokenConstraints, Constraints.ofJson, Json.object?, added, bind, Except.bind, cert,
    if_neg filled]
  rfl

/-- The key of a loaded pair can always be used, so the check comes to a verdict. -/
theorem decodeVerify_publicPem (wallSeconds : Int) (pair : KeyPair) (token issuer : String)
    (now : Instant) :
    decodeVerify wallSeconds token (tokenConstraints pair.publicPem issuer now) =
      .ok (verdict pair token issuer now) := by
  have admitted : Constraints.admitted (tokenConstraints pair.publicPem issuer now) =
      .ok (constraints pair.publicPem issuer now, pair.publicKey.encode) :=
    Constraints.admitted_eq_ok_iff.mpr
      ⟨ofJson_tokenConstraints issuer now (publicPem_ne_empty pair),
        Rsa.trustedOctets_publicPem pair⟩
  rw [decodeVerify_eq, admitted]
  rfl

end Embedded

/-! ### The verdict -/

/-- The parts of a token are given out exactly if it is opened under the algorithm that its header
names. -/
theorem signedParts?_eq_some_iff {key : Option Rsa.PublicKey} {token : String}
    {header payload : List (String × Json)} :
    signedParts? key token = some (header, payload) ↔
      ∃ compact algorithm, Jws.Compact.ofText? token = some compact ∧
        compact.headerOctets?.bind objectOctets? = some header ∧
        acceptedAlgorithm? header = some algorithm ∧
        Jws.openWith objectOfTree? algorithm key compact = .ok payload := by
  constructor
  · intro signed
    obtain ⟨compact, form, signed⟩ := Option.bind_eq_some_iff.mp signed
    obtain ⟨found, headerFound, signed⟩ := Option.bind_eq_some_iff.mp signed
    obtain ⟨algorithm, accepted, signed⟩ := Option.bind_eq_some_iff.mp signed
    cases opened : Jws.openWith objectOfTree? algorithm key compact with
    | error fault =>
        rw [opened] at signed
        cases signed
    | ok content =>
        rw [opened] at signed
        cases signed
        exact ⟨compact, algorithm, form, headerFound, accepted, opened⟩
  · rintro ⟨compact, algorithm, form, headerFound, accepted, opened⟩
    simp only [signedParts?, form, Option.bind_some, bind, headerFound, accepted, opened, pure]

section Reading

variable {pair : KeyPair} {token : String} {claims : Claims} {reading : Credential.Reading}
  {header payload : List (String × Json)}

/-- Whatever the key, the parts of a vouched token that are given out are built of the objects that
a validator reads. -/
theorem built_of_signedParts? {key : Option Rsa.PublicKey}
    (read : Credential.ReadAs pair token claims reading)
    (signed : signedParts? key token = some (header, payload)) :
    objectOfTree? (.object reading.header) = some header ∧
      objectOfTree? (.object reading.payload) = some payload := by
  obtain ⟨compact, algorithm, form, headerFound, _, opened⟩ := signedParts?_eq_some_iff.mp signed
  rw [read.form] at form
  cases form
  rw [read.headerFound, Option.bind_some, objectOctets?, Json.parse?, read.headerParsed]
    at headerFound
  obtain ⟨octets, tree, verified, parsed, built, _⟩ :=
    (Jws.openWith_eq_ok_iff _ _ _ _ _).mp opened
  obtain ⟨_, _, _, _, _, _, _, _, _, _, _, _, payloadFound⟩ :=
    (Jws.verifiedPayload_eq_ok_iff _ _ _ _).mp verified
  rw [read.payloadFound] at payloadFound
  cases payloadFound
  rw [read.payloadParsed] at parsed
  cases parsed
  exact ⟨headerFound, built⟩

theorem headerMembers?_of_readAs (read : Credential.ReadAs pair token claims reading) :
    Credential.headerMembers? token = some reading.headerMembers := by
  rw [Credential.headerMembers?, read.form, Option.bind_some, read.headerFound, Option.bind_some,
    read.headerParsed, Option.bind_some]
  exact read.headerNamed

theorem payloadMembers?_of_readAs (read : Credential.ReadAs pair token claims reading) :
    Credential.payloadMembers? token = some reading.payloadMembers := by
  rw [Credential.payloadMembers?, read.form, Option.bind_some, read.payloadFound,
    Option.bind_some, read.payloadParsed, Option.bind_some]
  exact read.payloadNamed

private theorem plain_header (read : Credential.ReadAs pair token claims reading)
    (built : objectOfTree? (.object reading.header) = some header)
    (known : ∀ member ∈ reading.headerMembers, member.1 ∈ ["alg", "kid", "typ"]) :
    Json.Plain 1 (.object header) := by
  refine Json.plain_of_build? read.headerNamed built ?_ ?_
  · intro member inside same
    exact absurd (same ▸ known member inside) (by decide)
  · intro member inside value builtMember
    exact Jws.Header.plain_of_isWellTyped (known member inside)
      (List.all_eq_true.mp read.headerTyped member inside) builtMember

private theorem plain_payload (read : Credential.ReadAs pair token claims reading)
    (built : objectOfTree? (.object reading.payload) = some payload)
    (known : ∀ member ∈ reading.payloadMembers, member.1 ∈ Claims.keys) :
    Json.Plain 3 (.object payload) := by
  refine Json.plain_of_build? read.payloadNamed built
    (fun member inside => Claims.unmarked_of_known (known member inside)) ?_
  intro member inside value builtMember
  exact Claims.plain_of_member read.readFrom.typed (known member inside) inside builtMember

end Reading

theorem enters_of_validate {validator : Validator} {seconds : Int64} {token : String}
    {claims : Claims} (accepted : validator.validate seconds token = .ok claims)
    (only : Credential.OnlyKnownMembers token) (pair : KeyPair) (issuer : String) (now : Instant) :
    (Value.enter? (Embedded.verdict pair token issuer now).toJson).isSome = true := by
  cases found : Embedded.verdict pair token issuer now with
  | none => rfl
  | some parts =>
      obtain ⟨header, payload⟩ := parts
      obtain ⟨signed, _⟩ := Option.filter_eq_some_iff.mp found
      obtain ⟨_, vouched⟩ := Validator.vouched_of_validate accepted
      obtain ⟨_, _, reading, read⟩ := vouched.exists_readAs
      obtain ⟨headerBuilt, payloadBuilt⟩ := built_of_signedParts? read signed
      obtain ⟨⟨_, headerMembers, headerKnown⟩, _, payloadMembers, payloadKnown⟩ := only
      rw [headerMembers?_of_readAs read] at headerMembers
      cases headerMembers
      rw [payloadMembers?_of_readAs read] at payloadMembers
      cases payloadMembers
      have plain : Json.Plain 4 (Verdict.toJson (some (header, payload))) := by
        apply Json.plain_array
        intro item member
        simp only [List.mem_cons, List.not_mem_nil, or_false] at member
        rcases member with rfl | rfl | rfl
        · exact (Json.plain_bool true).mono (Nat.zero_le _)
        · exact (plain_header read headerBuilt headerKnown).mono (by decide)
        · exact plain_payload read payloadBuilt payloadKnown
      exact Json.isSome_enter?_of_plain plain (by decide)

/-- The token check of the policy comes to its verdict unless policies cannot read it. -/
theorem Embedded.tokenCheck_publicPem (wallSeconds : Int) (pair : KeyPair) (token issuer : String)
    (now : Instant) :
    tokenCheck wallSeconds now pair.publicPem token issuer =
        .ok (verdict pair token issuer now).isSome ∨
      tokenCheck wallSeconds now pair.publicPem token issuer = .error .engine := by
  rw [tokenCheck, decodeVerify_publicPem]
  cases entered : Value.enter? (verdict pair token issuer now).toJson with
  | none => exact Or.inr (by simp only [entered])
  | some value => exact Or.inl (by simp only [entered])

theorem Embedded.tokenCheck_of_validate {validator : Validator} {seconds : Int64} {token : String}
    {claims : Claims} (accepted : validator.validate seconds token = .ok claims)
    (only : Credential.OnlyKnownMembers token) (wallSeconds : Int) (pair : KeyPair)
    (issuer : String) (now : Instant) :
    tokenCheck wallSeconds now pair.publicPem token issuer =
      .ok (verdict pair token issuer now).isSome := by
  have enters := enters_of_validate accepted only pair issuer now
  rw [tokenCheck, decodeVerify_publicPem]
  cases entered : Value.enter? (verdict pair token issuer now).toJson with
  | none =>
      rw [entered] at enters
      cases enters
  | some value => simp only [entered]

theorem Embedded.accepted_of_tokenCheck {wallSeconds : Int} {now : Instant}
    {publicPem token issuer : String}
    (passes : tokenCheck wallSeconds now publicPem token issuer = .ok true) :
    ∃ parts, decodeVerify wallSeconds token (tokenConstraints publicPem issuer now) =
      .ok (some parts) := by
  unfold tokenCheck at passes
  split at passes
  · cases passes
  · rename_i found checked
    split at passes
    · cases passes
    · obtain ⟨parts, rfl⟩ := Option.isSome_iff_exists.mp (Except.ok.inj passes)
      exact ⟨parts, checked⟩

end Policy

end Turnstile
