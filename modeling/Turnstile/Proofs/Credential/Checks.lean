import Turnstile.Proofs.Credential.Soundness
set_option autoImplicit false

/-! What each check of a validator asks of a token. A header is read for its key before it is read in
full; the two readings ask for different things, and the second is made only once the first has led
to a key. The payload is looked at after the signature. -/

namespace Turnstile

open Credential (NamesOnce Says)

/-! ### Headers -/

namespace Jws

/-- What a hint is read from: an object that names an algorithm and a key, once each, or an array of
these two texts. -/
inductive KeyHint.Written (octets : Bytes) : KeyHint → Prop where
  | object {hint : KeyHint} (algorithm : NamesOnce octets "alg" hint.algorithm)
      (kid : NamesOnce octets "kid" hint.kid) : Written octets hint
  | array {first second : Json.Tree} {algorithm kid : String}
      (parsed : Json.Tree.parse? octets = some (.array [first, second]))
      (named : first.text? = some algorithm) (asked : second.text? = some kid) :
      Written octets ⟨algorithm, kid⟩

/-- A header in order: an object in which each member of the standard stands at most once and has
its type, and every other member is a text. -/
def Header.InOrder (octets : Bytes) : Prop :=
  ∃ written members, Json.Tree.parse? octets = some (.object written) ∧
    Json.Tree.namedMembers? written = some members ∧
    Json.Tree.eachAtMostOnce ("alg" :: "jwk" :: textKeys ++ listKeys) members = true ∧
    ∀ member ∈ members, isWellTyped member.1 member.2 = true

theorem KeyHint.written_of_ofTree? {octets : Bytes} {tree : Json.Tree} {hint : KeyHint}
    (parsed : Json.Tree.parse? octets = some tree) (read : ofTree? tree = some hint) :
    Written octets hint := by
  unfold ofTree? at read
  split at read
  · rename_i written
    obtain ⟨members, named, _⟩ := Option.bind_eq_some_iff.mp read
    obtain ⟨once, algorithm, kid⟩ := members_of_ofTree? named read
    exact .object
      ⟨written, members, parsed, named,
        Json.Tree.occurrences_eq_one once (by simp) algorithm, algorithm⟩
      ⟨written, members, parsed, named, Json.Tree.occurrences_eq_one once (by simp) kid, kid⟩
  · obtain ⟨algorithm, named, read⟩ := Option.bind_eq_some_iff.mp read
    obtain ⟨kid, asked, same⟩ := Option.bind_eq_some_iff.mp read
    cases same
    exact .array parsed named asked
  · cases read

theorem KeyHint.ofTree?_of_written {octets : Bytes} {hint : KeyHint}
    (written : Written octets hint) :
    (Json.Tree.parse? octets).bind ofTree? = some hint := by
  cases written with
  | object algorithm kid =>
      obtain ⟨object, members, parsed, named, algorithmOnce, algorithm⟩ := algorithm
      obtain ⟨_, _, sameParsed, sameNamed, kidOnce, kid⟩ := kid
      rw [parsed] at sameParsed
      cases sameParsed
      rw [named] at sameNamed
      cases sameNamed
      have once : Json.Tree.eachAtMostOnce ["alg", "kid"] members = true := by
        simp [Json.Tree.eachAtMostOnce, algorithmOnce, kidOnce]
      simp [parsed, ofTree?, named, once, algorithm, kid]
  | array parsed named asked =>
      simp [parsed, ofTree?, named, asked]

theorem KeyHint.written_iff (octets : Bytes) (hint : KeyHint) :
    (Json.Tree.parse? octets).bind ofTree? = some hint ↔ Written octets hint := by
  constructor
  · intro read
    obtain ⟨tree, parsed, read⟩ := Option.bind_eq_some_iff.mp read
    exact written_of_ofTree? parsed read
  · exact ofTree?_of_written

theorem Header.algorithm?_of_members {written : List (Bytes × Json.Tree)}
    {members : List (String × Json.Tree)} {algorithm : Algorithm}
    (read : Json.Tree.namedMembers? written = some members)
    (once : Json.Tree.eachAtMostOnce ("alg" :: "jwk" :: textKeys ++ listKeys) members = true)
    (typed : ∀ member ∈ members, isWellTyped member.1 member.2 = true)
    (found : memberText? "alg" members = some algorithm.name) :
    algorithm? (.object written) = some algorithm := by
  have allTyped : (members.all fun member => isWellTyped member.1 member.2) = true :=
    List.all_eq_true.mpr typed
  simpa [algorithm?, read, allTyped, found, Algorithm.ofName?_name] using once

theorem Header.algorithm?_of_inOrder {octets : Bytes} {hint : KeyHint} (algorithm : Algorithm)
    (written : KeyHint.Written octets hint) (named : hint.algorithm = algorithm.name)
    (inOrder : InOrder octets) :
    (Json.Tree.parse? octets).bind algorithm? = some algorithm := by
  obtain ⟨object, members, parsed, read, once, typed⟩ := inOrder
  have found : memberText? "alg" members = some algorithm.name := by
    cases written with
    | object names _ =>
        obtain ⟨_, _, sameParsed, sameRead, _, found⟩ := names
        rw [parsed] at sameParsed
        cases sameParsed
        rw [read] at sameRead
        cases sameRead
        rw [memberText?, found, named]
    | array sameParsed _ _ =>
        rw [parsed] at sameParsed
        cases sameParsed
  rw [parsed, Option.bind_some]
  exact algorithm?_of_members read once typed found

theorem Header.inOrder_of_algorithm? {octets : Bytes} {tree : Json.Tree} {algorithm : Algorithm}
    (parsed : Json.Tree.parse? octets = some tree) (read : algorithm? tree = some algorithm) :
    InOrder octets := by
  obtain ⟨members, object, once, typed, _⟩ := members_of_algorithm? read
  obtain ⟨written, rfl, named⟩ := Json.Tree.object_of_members? object
  exact ⟨written, members, parsed, named, once, fun member inside =>
    List.all_eq_true.mp typed member inside⟩

theorem Header.algorithm?_of_not_inOrder {octets : Bytes} (disordered : ¬ InOrder octets) :
    (Json.Tree.parse? octets).bind algorithm? = none := by
  rw [Option.eq_none_iff_forall_ne_some]
  intro algorithm read
  obtain ⟨tree, parsed, read⟩ := Option.bind_eq_some_iff.mp read
  exact disordered (inOrder_of_algorithm? parsed read)

theorem Header.written_render (algorithm : Algorithm) (kid : String) :
    KeyHint.Written (Utf8.encodeChars (render algorithm kid)) ⟨algorithm.name, kid⟩ ∧
      InOrder (Utf8.encodeChars (render algorithm kid)) := by
  refine ⟨(KeyHint.written_iff _ _).mp (hint_render algorithm kid), ?_⟩
  by_contra disordered
  have named := algorithm?_render algorithm kid
  rw [algorithm?_of_not_inOrder disordered] at named
  cases named

end Jws

/-! ### Segments -/

namespace Credential

/-- A token is three filled segments with dots between them, and no dots in them. -/
structure Segments (token : String) (compact : Jws.Compact) : Prop where
  written : token = compact.render
  filled : compact.header ≠ [] ∧ compact.payload ≠ [] ∧ compact.signature ≠ []
  dotless : '.' ∉ compact.header ∧ '.' ∉ compact.payload ∧ '.' ∉ compact.signature

theorem segments_iff (token : String) (compact : Jws.Compact) :
    Segments token compact ↔
      Jws.Compact.ofText? token = some compact ∧ compact.isComplete = true := by
  have complete : compact.isComplete = true ↔
      compact.header ≠ [] ∧ compact.payload ≠ [] ∧ compact.signature ≠ [] := by
    simp [Jws.Compact.isComplete, and_assoc]
  rw [Jws.Compact.ofText?_eq_some_iff, complete]
  constructor
  · rintro ⟨written, filled, dotless⟩
    exact ⟨⟨written, dotless⟩, filled⟩
  · rintro ⟨⟨written, dotless⟩, filled⟩
    exact ⟨written, filled, dotless⟩

theorem Segments.unique {token : String} {compact other : Jws.Compact}
    (segments : Segments token compact) (segmentsOther : Segments token other) :
    compact = other := by
  obtain ⟨read, _⟩ := (segments_iff _ _).mp segments
  obtain ⟨readOther, _⟩ := (segments_iff _ _).mp segmentsOther
  exact Option.some.inj (read.symm.trans readOther)

/-- A token has the form of a credential and asks for a key. -/
structure Asks (token : String) (compact : Jws.Compact) (header : Bytes) (hint : Jws.KeyHint) :
    Prop where
  segments : Segments token compact
  decoded : compact.headerOctets? = some header
  written : Jws.KeyHint.Written header hint

theorem parse_eq_ok_iff_asks (token : String) (compact : Jws.Compact) (hint : Jws.KeyHint) :
    parse token = .ok (compact, hint) ↔ ∃ header, Asks token compact header hint := by
  rw [parse_eq_ok_iff, ← and_assoc, ← segments_iff]
  constructor
  · rintro ⟨segments, read⟩
    obtain ⟨tree, parsed, read⟩ := Option.bind_eq_some_iff.mp read
    obtain ⟨header, decoded, parsed⟩ := Option.bind_eq_some_iff.mp parsed
    exact ⟨header, segments, decoded, Jws.KeyHint.written_of_ofTree? parsed read⟩
  · rintro ⟨header, segments, decoded, written⟩
    refine ⟨segments, ?_⟩
    rw [decoded, Option.bind_some]
    exact Jws.KeyHint.ofTree?_of_written written

theorem parse_of_not_asks {token : String}
    (unasked : ∀ compact header hint, ¬ Asks token compact header hint) :
    parse token = .error .malformed := by
  cases parsed : parse token with
  | ok asked =>
      obtain ⟨compact, hint⟩ := asked
      obtain ⟨header, asks⟩ := (parse_eq_ok_iff_asks _ _ _).mp parsed
      exact absurd asks (unasked _ _ _)
  | error error =>
      unfold parse at parsed
      split at parsed
      · exact parsed.symm
      · split at parsed
        · exact parsed.symm
        · split at parsed
          · cases parsed
          · exact parsed.symm

/-! ### Signatures -/

/-- The signature of a token verifies over its first two segments. -/
def VerifiesUnder (pair : KeyPair) (compact : Jws.Compact) : Prop :=
  ∃ signature, compact.signatureOctets? = some signature ∧
    Rsa.verifies pair.publicKey .sha256 compact.signedOctets signature = true

/-- A signature that is not as long as the modulus does not verify. -/
theorem not_verifiesUnder {pair : KeyPair} {compact : Jws.Compact} {signature : Bytes}
    (decoded : compact.signatureOctets? = some signature)
    (unfit : signature.length ≠ Bytes.octetSize pair.publicKey.modulus) :
    ¬ VerifiesUnder pair compact := by
  rintro ⟨found, foundDecoded, holds⟩
  rw [decoded] at foundDecoded
  cases foundDecoded
  exact unfit (Rsa.length_of_verifies holds)

/-- A token is signed, and its second segment has the octets of a payload. -/
structure SignedBy (pair : KeyPair) (compact : Jws.Compact) (payload : Bytes) : Prop where
  verifies : VerifiesUnder pair compact
  decoded : compact.payloadOctets? = some payload

section Opening

variable {pair : KeyPair} {compact : Jws.Compact} {header payload : Bytes} {hint : Jws.KeyHint}

/-- A token whose header is not in order is not opened, whatever its signature. -/
theorem verifiedPayload_of_not_inOrder (algorithm : Jws.Algorithm) (key : Option Rsa.PublicKey)
    (decoded : compact.headerOctets? = some header) (disordered : ¬ Jws.Header.InOrder header) :
    Jws.verifiedPayload algorithm key compact = .error .json := by
  simp only [Jws.verifiedPayload, decoded, Jws.Header.algorithm?_of_not_inOrder disordered]

variable (decoded : compact.headerOctets? = some header)
  (written : Jws.KeyHint.Written header hint) (named : hint.algorithm = "RS256")
  (inOrder : Jws.Header.InOrder header)

include decoded written named inOrder

theorem verifiedPayload_of_signed (signed : SignedBy pair compact payload) :
    Jws.verifiedPayload Credential.algorithm (some pair.publicKey) compact = .ok payload := by
  obtain ⟨⟨signature, signatureDecoded, holds⟩, payloadDecoded⟩ := signed
  obtain ⟨tree, parsed, read⟩ := Option.bind_eq_some_iff.mp
    (Jws.Header.algorithm?_of_inOrder .rs256 written named inOrder)
  exact (Jws.verifiedPayload_eq_ok_iff _ _ _ _).mpr
    ⟨header, tree, .sha256, pair.publicKey, signature, decoded, parsed, read, rfl, rfl,
      signatureDecoded, holds, payloadDecoded⟩

theorem verifiedPayload_of_unsigned (unsigned : ∀ payload, ¬ SignedBy pair compact payload) :
    Jws.verifiedPayload Credential.algorithm (some pair.publicKey) compact = .error .other := by
  have read := Jws.Header.algorithm?_of_inOrder .rs256 written named inOrder
  simp only [Jws.verifiedPayload, decoded, read, Credential.algorithm, ne_eq, not_true_eq_false,
    if_false, Jws.Algorithm.hash?]
  cases signatureDecoded : compact.signatureOctets? with
  | none => rfl
  | some signature =>
      cases holds : Rsa.verifies pair.publicKey .sha256 compact.signedOctets signature with
      | false => simp only [holds, Bool.false_eq_true, if_false]
      | true =>
          cases payloadDecoded : compact.payloadOctets? with
          | none => simp only [holds, if_true]
          | some payload =>
              exact absurd ⟨⟨signature, signatureDecoded, holds⟩, payloadDecoded⟩
                (unsigned payload)

end Opening

end Credential

/-! ### Payloads -/

theorem Claims.readable_of_readFrom {members : List (String × Json.Tree)} {claims : Claims}
    (read : ReadFrom members claims) :
    Json.Tree.eachAtMostOnce Jws.registeredKeys members = true ∧
      Jws.hasPlainSubject members = true := by
  have known : ∀ key ∈ Jws.registeredKeys, key ∈ keys := by decide
  have once := List.all_eq_true.mp read.once
  refine ⟨List.all_eq_true.mpr fun key registered => once key (known key registered), ?_⟩
  apply List.all_eq_true.mpr
  rintro ⟨key, tree⟩ inside
  by_cases subject : key = "sub"
  · subst subject
    have alone := Json.Tree.lookup?_of_mem inside
      (of_decide_eq_true (once "sub" (known "sub" (by decide))))
    have text := read.subject
    rw [Json.Tree.required?, alone, Option.bind_some] at text
    cases tree with
    | array _ => cases text
    | object _ => cases text
    | null => cases text
    | bool _ => cases text
    | numeral _ => cases text
    | string _ => simp
  · simp [subject]

namespace Credential

theorem says_iff (payload : Bytes) (claims : Claims) :
    Says payload claims ↔ ∃ tree, Json.Tree.parse? payload = some tree ∧
      Claims.ofTree? tree = some claims ∧ Jws.hasReadableClaims tree = true := by
  constructor
  · rintro ⟨written, members, parsed, named, read⟩
    refine ⟨.object written, parsed, ?_, ?_⟩
    · rw [Claims.ofTree?, named, Option.bind_some, read]
    · obtain ⟨once, plain⟩ := Claims.readable_of_readFrom (Claims.readFrom_of_ofMembers? read)
      simp only [Jws.hasReadableClaims, named, Option.any_some, once, plain, Bool.and_self]
  · rintro ⟨tree, parsed, read, readable⟩
    obtain ⟨members, object, _⟩ := Jws.members_of_hasReadableClaims readable
    obtain ⟨written, rfl, named⟩ := Json.Tree.object_of_members? object
    rw [Claims.ofTree?, named, Option.bind_some] at read
    exact ⟨written, members, parsed, named, read⟩

end Credential

namespace Validator

variable {key : Rsa.PublicKey} {compact : Jws.Compact} {payload : Bytes}

theorem openClaims_of_statement {claims : Claims}
    (verified : Jws.verifiedPayload Credential.algorithm (some key) compact = .ok payload)
    (stated : Says payload claims) : openClaims key compact = .ok claims := by
  obtain ⟨tree, parsed, read, readable⟩ := (Credential.says_iff _ _).mp stated
  exact (openClaims_eq_ok_iff _ _ _).mpr
    ((Jws.openWith_eq_ok_iff _ _ _ _ _).mpr ⟨payload, tree, verified, parsed, read, readable⟩)

theorem openClaims_of_no_statement
    (verified : Jws.verifiedPayload Credential.algorithm (some key) compact = .ok payload)
    (silent : ∀ claims, ¬ Says payload claims) : openClaims key compact = .error .malformed := by
  unfold openClaims Jws.openWith
  simp only [verified]
  cases parsed : Json.Tree.parse? payload with
  | none => rfl
  | some tree =>
      cases read : Claims.ofTree? tree with
      | none => simp only [read]
      | some claims =>
          cases readable : Jws.hasReadableClaims tree with
          | false => simp only [read, readable, Bool.false_eq_true, if_false]
          | true =>
              exact absurd ((Credential.says_iff _ _).mpr ⟨tree, parsed, read, readable⟩)
                (silent claims)

theorem openClaims_of_fault {fault : Jws.Fault}
    (unopened : Jws.verifiedPayload Credential.algorithm (some key) compact = .error fault) :
    openClaims key compact =
      .error (match fault with
        | .json => .malformed
        | .other => .signature) := by
  unfold openClaims Jws.openWith
  simp only [unopened]
  cases fault <;> rfl

end Validator

end Turnstile
