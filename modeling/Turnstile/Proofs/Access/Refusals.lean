import Turnstile.Proofs.Access.Layers
import Turnstile.Proofs.Credential.Classification
import Turnstile.Proofs.Policy.Window
set_option autoImplicit false

/-! How tokens are refused under the embedded policies when the caller waits. A token that is not
accepted is refused as a credential, by whichever layer, unless a policy cannot read the parts that
the token check hands to it; then the policy is at fault. -/

namespace Turnstile

/-! ### Parts of a token in the hands of a policy -/

namespace Policy

namespace Value

/-- What a policy makes of a value that is written out for it, however deep it is. -/
def readBack? (value : Json) : Option Value := value.rereadNumbers?.bind ofJson?

theorem enter?_eq_readBack? (value : Json) :
    enter? value = if value.depth ≤ Json.depthLimit then readBack? value else none := by
  rw [enter?, Json.reread?]
  split <;> rfl

theorem isSome_readBack?_array_iff (items : List Json) :
    (readBack? (.array items)).isSome = true ↔
      ∀ item ∈ items, (readBack? item).isSome = true := by
  have whole : readBack? (.array items) =
      ((Json.rereadItems? items).bind ofItems?).map .array := by
    rw [readBack?, Json.rereadNumbers?]
    cases Json.rereadItems? items <;> rfl
  rw [whole, Option.isSome_map]
  clear whole
  induction items with
  | nil => simp [Json.rereadItems?, ofItems?]
  | cons item rest ih =>
      rw [List.forall_mem_cons]
      refine Iff.trans ?_ (and_congr_right fun _ => ih)
      rw [readBack?, Json.rereadItems?]
      cases item.rereadNumbers? with
      | none => simp
      | some item =>
          cases Json.rereadItems? rest with
          | none => simp
          | some rest =>
              simp only [Option.bind_some, ofItems?]
              cases ofJson? item <;> cases ofItems? rest <;> simp

theorem readBack?_text_cons (key text : String) (rest : List (String × Json)) :
    readBack? (.object ((key, .string text) :: rest)) =
      ((Json.rereadMembers? rest).bind ofMembers?).bind fun entries =>
        ofEntries? ((.string key, .string text) :: entries) := by
  rw [readBack?, Json.rereadNumbers?, Json.rereadMembers?, Json.rereadNumbers?]
  cases Json.rereadMembers? rest with
  | none => rfl
  | some rest =>
      simp only [Option.map_some, Option.bind_some, ofJson?, ofMembers?]
      cases ofMembers? rest <;> rfl

theorem ne_nil_of_entries {members : List (String × Json)} {entries : List (Value × Value)}
    (filled : members ≠ [])
    (read : (Json.rereadMembers? members).bind ofMembers? = some entries) : entries ≠ [] := by
  obtain ⟨⟨key, value⟩, rest, rfl⟩ := List.exists_cons_of_ne_nil filled
  obtain ⟨reread, written, read⟩ := Option.bind_eq_some_iff.mp read
  rw [Json.rereadMembers?] at written
  split at written
  · cases written
    rw [ofMembers?] at read
    split at read
    · cases read
      exact List.cons_ne_nil _ _
    · cases read
  · cases written

end Value

/-- An object can be read inside another value: it leaves room for one more level of nesting, the
numbers in it are read back once they are written, and what looks like a number in it is one. -/
structure ReadableInside (members : List (String × Json)) : Prop where
  shallow : (Json.object members).depth < Json.depthLimit
  read : (Value.readBack? (.object members)).isSome = true

/-- An object that starts with a text at the key of numerals cannot be read if it has another
member, or if the text is no numeral. -/
theorem not_readableInside_of_numeralKey {text : String} {rest : List (String × Json)}
    (misleading : rest ≠ [] ∨ Numeral.read? text.toList = none) :
    ¬ ReadableInside ((Value.numeralKey, .string text) :: rest) := by
  rintro ⟨_, read⟩
  rw [Value.readBack?_text_cons, Option.isSome_bind, Option.any_eq_true] at read
  obtain ⟨entries, entered, read⟩ := read
  rw [Value.ofEntries?, if_pos rfl] at read
  rcases misleading with filled | unread
  · rw [if_neg (by simpa using Value.ne_nil_of_entries filled entered)] at read
    cases read
  · rw [Value.ofNumeral?, unread, Option.map_none, ite_self] at read
    cases read

/-- The members start with a text at the key of numerals, and it is not the only one. -/
def mislabelled : List (String × Json) → Bool
  | (key, .string _) :: _ :: _ => decide (key = Value.numeralKey)
  | _ => false

theorem not_readableInside_of_mislabelled {members : List (String × Json)}
    (marked : mislabelled members = true) : ¬ ReadableInside members := by
  unfold mislabelled at marked
  split at marked
  · cases of_decide_eq_true marked
    exact not_readableInside_of_numeralKey (Or.inl (List.cons_ne_nil _ _))
  · cases marked

theorem isSome_enter?_verdict_iff (header payload : List (String × Json)) :
    (Value.enter? (Verdict.toJson (some (header, payload)))).isSome = true ↔
      ReadableInside header ∧ ReadableInside payload := by
  have depth : (Verdict.toJson (some (header, payload))).depth =
      max (Json.object header).depth (Json.object payload).depth + 1 := by
    simp only [Verdict.toJson, Json.depth, Json.depthOfItems, Nat.zero_max, Nat.max_zero]
  have parts : (Value.readBack? (Verdict.toJson (some (header, payload)))).isSome = true ↔
      (Value.readBack? (.object header)).isSome = true ∧
        (Value.readBack? (.object payload)).isSome = true := by
    rw [Verdict.toJson, Value.isSome_readBack?_array_iff]
    simp [Value.readBack?, Json.rereadNumbers?, Value.ofJson?]
  rw [Value.enter?_eq_readBack?, depth]
  constructor
  · intro entered
    split at entered
    · obtain ⟨headerRead, payloadRead⟩ := parts.mp entered
      exact ⟨⟨by omega, headerRead⟩, ⟨by omega, payloadRead⟩⟩
    · cases entered
  · rintro ⟨⟨headerShallow, headerRead⟩, ⟨payloadShallow, payloadRead⟩⟩
    rw [if_pos (by omega)]
    exact parts.mpr ⟨headerRead, payloadRead⟩

/-- The token check of the policy is at fault exactly if it finds parts of the token that policies
cannot read. -/
theorem Embedded.tokenCheck_eq_error_iff (wallSeconds : Int) (pair : KeyPair)
    (token issuer : String) (now : Instant) :
    (∃ fault, tokenCheck wallSeconds now pair.publicPem token issuer = .error fault) ↔
      ∃ header payload, decodeVerify wallSeconds token
          (tokenConstraints pair.publicPem issuer now) = .ok (some (header, payload)) ∧
        ¬ (ReadableInside header ∧ ReadableInside payload) := by
  rw [tokenCheck, decodeVerify_publicPem]
  cases verdict pair token issuer now with
  | none =>
      obtain ⟨value, entered⟩ : ∃ value, Value.enter? (Verdict.toJson none) = some value := ⟨_, rfl⟩
      simp only [entered]
      constructor
      · rintro ⟨fault, failed⟩
        cases failed
      · rintro ⟨header, payload, found, _⟩
        cases found
  | some parts =>
      obtain ⟨header, payload⟩ := parts
      have readable := isSome_enter?_verdict_iff header payload
      constructor
      · rintro ⟨fault, failed⟩
        refine ⟨header, payload, rfl, fun bothReadable => ?_⟩
        obtain ⟨value, entered⟩ := Option.isSome_iff_exists.mp (readable.mpr bothReadable)
        simp only [entered] at failed
        cases failed
      · rintro ⟨_, _, found, unreadable⟩
        cases found
        cases entered : Value.enter? (Verdict.toJson (some (header, payload))) with
        | none => exact ⟨.engine, by simp only [entered]⟩
        | some value => exact absurd (readable.mp (by rw [entered]; rfl)) unreadable

end Policy

/-! ### What is refused, and how -/

namespace AccessControl

open Policy (ReadableInside decodeVerify)
open Policy.Embedded (tokenConstraints)

/-- A token that validates and passes the token check, but not in the hands of a policy: one of its
parts cannot be read there. -/
def Unreadable (validator : Validator) (wallSeconds : Int) (now : Instant) (token : String) :
    Prop :=
  ∃ claims kid pair header payload,
    validator.validate (Int64.ofInt now.seconds) token = .ok claims ∧
    Credential.kid token = .ok kid ∧ validator.keys.get? kid = some pair ∧
    decodeVerify wallSeconds token (tokenConstraints pair.publicPem claims.issuer now) =
      .ok (some (header, payload)) ∧
    ¬ (ReadableInside header ∧ ReadableInside payload)

theorem unreadable_of_vouched {keys : KeyStore} {leeway : Int64} {audience : Option String}
    {now : Instant} {pair : KeyPair} {token : String} {claims : Claims}
    (accepted : (Validator.mk keys leeway audience).validate (Int64.ofInt now.seconds) token =
      .ok claims)
    (vouched : Credential.Vouched keys pair token claims)
    (inside : Policy.insideWindow claims.notBefore.toInt claims.expires.toInt
      (Policy.secondsAt now) = true)
    {header payload : List (String × Json)}
    (signed : Policy.signedParts? (some pair.publicKey) token = some (header, payload))
    (unreadable : ¬ (ReadableInside header ∧ ReadableInside payload)) (wallSeconds : Int) :
    Unreadable ⟨keys, leeway, audience⟩ wallSeconds now token := by
  obtain ⟨asked, found, _⟩ := vouched.exists_readAs
  have verdict := Policy.Embedded.verdict_of_signedParts? vouched signed claims.issuer now
  rw [if_pos ⟨rfl, inside⟩] at verdict
  exact ⟨claims, pair.kid, pair, header, payload, accepted, asked, found,
    by rw [Policy.Embedded.decodeVerify_publicPem, verdict], unreadable⟩

/-- How a token is refused: by fault of the policy if it is unreadable, and else as a credential, by
either layer. -/
inductive Refusal (validator : Validator) (wallSeconds : Int) (now : Instant) (token : String) :
    Except AccessError Claims → Prop where
  | fault (cause : Policy.Error) (unreadable : Unreadable validator wallSeconds now token) :
      Refusal validator wallSeconds now token (.error (.policy cause))
  | credential (cause : CredentialError) (readable : ¬ Unreadable validator wallSeconds now token) :
      Refusal validator wallSeconds now token (.error (.unauthenticated cause))
  | denied (readable : ¬ Unreadable validator wallSeconds now token) :
      Refusal validator wallSeconds now token (.error .denied)

variable (validator : Validator) {context : Policy.Context} {now : Instant} {token : String}

theorem unreadable_iff {validator : Validator} {kid : String} {pair : KeyPair} {claims : Claims}
    (validated : validator.validate (Int64.ofInt now.seconds) token = .ok claims)
    (asked : Credential.kid token = .ok kid) (found : validator.keys.get? kid = some pair)
    (wallSeconds : Int) :
    Unreadable validator wallSeconds now token ↔
      ∃ fault, Policy.Embedded.tokenCheck wallSeconds now pair.publicPem token claims.issuer =
        .error fault := by
  rw [Policy.Embedded.tokenCheck_eq_error_iff]
  constructor
  · rintro ⟨_, _, _, header, payload, sameValidated, sameAsked, sameFound, checked⟩
    cases validated.symm.trans sameValidated
    cases asked.symm.trans sameAsked
    cases Option.some.inj (found.symm.trans sameFound)
    exact ⟨header, payload, checked⟩
  · rintro ⟨header, payload, checked⟩
    exact ⟨claims, kid, pair, header, payload, validated, asked, found, checked⟩

theorem not_unreadable_of_onlyKnownMembers (wallSeconds : Int) (now : Instant)
    (only : Credential.OnlyKnownMembers token) :
    ¬ Unreadable validator wallSeconds now token := by
  intro unreadable
  have ⟨claims, _, pair, _, _, validated, asked, found, _⟩ := unreadable
  obtain ⟨fault, failed⟩ := (unreadable_iff validated asked found wallSeconds).mp unreadable
  rw [Policy.Embedded.tokenCheck_of_validate validated only] at failed
  cases failed

theorem not_authenticated_of_unreadable
    (unreadable : Unreadable validator context.wallSeconds now token) (claims : Claims) :
    (AccessControl.mk validator .embedded).authenticate context now token ≠ .ok claims := by
  intro authenticated
  obtain ⟨validated, kid, pair, asked, found, judged⟩ :=
    (authenticateAt_eq_ok_iff _ _ _ _ _ _).mp authenticated
  obtain ⟨_, passes, _⟩ :=
    (Policy.Engine.evaluateAuthentication_eq_true_iff _ _ _ _ _).mp judged
  obtain ⟨fault, failed⟩ := (unreadable_iff validated asked found _).mp unreadable
  rw [passes] at failed
  cases failed

/-- A caller that waits is given access or refused in one of these ways. -/
theorem refusal_of_authenticate (live : context.Live)
    (refused : ∀ claims, (AccessControl.mk validator .embedded).authenticate context now token ≠
      .ok claims) :
    Refusal validator context.wallSeconds now token
      ((AccessControl.mk validator .embedded).authenticate context now token) := by
  cases validated : validator.validate (Int64.ofInt now.seconds) token with
  | error error =>
      have result : (AccessControl.mk validator .embedded).authenticate context now token =
          .error (.unauthenticated error) := by
        simp only [authenticate, authenticateAt, validated]
      rw [result]
      refine .credential error ?_
      rintro ⟨_, _, _, _, _, accepted, _⟩
      cases validated.symm.trans accepted
  | ok claims =>
      obtain ⟨kid, pair, asked, found, judged⟩ :=
        authenticateAt_of_validate ⟨validator, .embedded⟩ context now validated
      have unreadable := unreadable_iff validated asked found context.wallSeconds
      rw [authenticate] at refused ⊢
      rw [judged, Policy.Engine.evaluateAuthentication_embedded, live.1, live.2] at refused ⊢
      cases checked : Policy.Embedded.tokenCheck context.wallSeconds now pair.publicPem token
          claims.issuer with
      | error cause => exact .fault _ (unreadable.mpr ⟨cause, checked⟩)
      | ok passes =>
          have readable : ¬ Unreadable validator context.wallSeconds now token := by
            intro fails
            obtain ⟨fault, failed⟩ := unreadable.mp fails
            cases checked.symm.trans failed
          simp only [Policy.Standing.check, checked] at refused ⊢
          cases trusted : passes && Policy.Embedded.trustedIssuers.contains claims.issuer with
          | false => exact .denied readable
          | true =>
              rw [trusted] at refused
              exact absurd rfl (refused claims)

/-! ### Unreadable tokens -/

/-- A payload that says claims and has one member more. -/
def payloadWith (member : List Char) : Bytes :=
  let claims := "\x7b\"sub\":\"z\",\"iss\":\"service project\",\"iat\":100,\"nbf\":100,\"exp\":700,"
  Utf8.encodeChars (claims.toList ++ member ++ ['\x7d'])

def spokenClaims : Claims := ⟨"z", "service project", none, 100, 100, 700, none, []⟩

/-- A member that makes the payload as deep as any value may be. -/
def deepMember : List Char :=
  let arrays := Json.depthLimit - 1
  "\"x\":".toList ++ List.replicate arrays '[' ++ '1' :: List.replicate arrays ']'

/-- A member that makes the payload look like a number. -/
def numeralMember : List Char :=
  "\"$serde_json::private::Number\":\"x\"".toList

/-- A token with this payload that is not signed. -/
def partsWith (member : List Char) : Credential.Parts :=
  ⟨Utf8.encodeChars (Jws.Header.render Credential.algorithm "main"), payloadWith member, []⟩

/-- The members that policies cannot read in a payload. -/
def hardMembers : List (List Char) := [deepMember, numeralMember]

section Hard

variable {member : List Char} (hard : member ∈ hardMembers)

include hard

private theorem eq_of_hard : member = deepMember ∨ member = numeralMember := by
  simpa only [hardMembers, List.mem_cons, List.not_mem_nil, or_false] using hard

private theorem says_payloadWith : Credential.Says (payloadWith member) spokenClaims := by
  have read : ((Json.Tree.parse? (payloadWith member)).bind fun tree =>
      if Jws.hasReadableClaims tree = true then Claims.ofTree? tree else none) =
        some spokenClaims := by
    rcases eq_of_hard hard with rfl | rfl
    · decide +kernel
    · decide +kernel
  obtain ⟨tree, parsed, read⟩ := Option.bind_eq_some_iff.mp read
  split at read
  · rename_i readable
    exact (Credential.says_iff _ _).mpr ⟨tree, parsed, read, readable⟩
  · cases read

private theorem not_readableInside_of_hard {written : List (Bytes × Json.Tree)}
    (parsed : Json.Tree.parse? (payloadWith member) = some (.object written)) :
    ∃ payload, Policy.objectOfTree? (.object written) = some payload ∧
      ¬ ReadableInside payload := by
  rcases eq_of_hard hard with rfl | rfl
  · have deep : ((Json.Tree.parse? (payloadWith deepMember)).bind Policy.objectOfTree?).any
        (fun payload => decide (Json.depthLimit ≤ (Json.object payload).depth)) = true := by
      decide +kernel
    rw [parsed, Option.bind_some, Option.any_eq_true] at deep
    obtain ⟨payload, built, deep⟩ := deep
    exact ⟨payload, built, fun readable =>
      absurd readable.shallow (Nat.not_lt.mpr (of_decide_eq_true deep))⟩
  · have marked : ((Json.Tree.parse? (payloadWith numeralMember)).bind
        Policy.objectOfTree?).any Policy.mislabelled = true := by
      decide +kernel
    rw [parsed, Option.bind_some, Option.any_eq_true] at marked
    obtain ⟨payload, built, marked⟩ := marked
    exact ⟨payload, built, Policy.not_readableInside_of_mislabelled marked⟩

/-- Signed tokens can be unreadable for either reason. -/
theorem exists_unreadable (wallSeconds : Int) :
    ∃ parts : Credential.Parts, parts.payload = payloadWith member ∧
      Unreadable ⟨exampleStore, 0, none⟩ wallSeconds (.ofSeconds 300) parts.compact.render := by
  have signs : (Rsa.sign exampleKey .sha256 (partsWith member).compact.signedOctets).isOk =
      true := by
    rcases eq_of_hard hard with rfl | rfl
    · decide +kernel
    · decide +kernel
  obtain ⟨parts, header, payloadSame, made⟩ := Credential.exists_signed
    ⟨"main", exampleKey, exampleKey_check⟩ (partsWith member) signs
  have vouched : Credential.Vouched exampleStore ⟨"main", exampleKey, exampleKey_check⟩
      parts.compact.render spokenClaims :=
    Credential.vouched_of_sign rfl header (payloadSame ▸ says_payloadWith hard) made
  refine ⟨parts, payloadSame, ?_⟩
  obtain ⟨_, _, reading, read⟩ := vouched.exists_readAs
  have form := read.form
  rw [Jws.Compact.ofText?_render (Base64.dot_not_mem_encodeUrl _)
    (Base64.dot_not_mem_encodeUrl _) (Base64.dot_not_mem_encodeUrl _)] at form
  have payloadFound := read.payloadFound
  rw [← Option.some.inj form] at payloadFound
  have payloadOctets : reading.payloadOctets = payloadWith member :=
    (Option.some.inj (payloadFound.symm.trans (Base64.decodeUrl?_encodeUrl _))).trans payloadSame
  obtain ⟨payload, built, unreadable⟩ :=
    not_readableInside_of_hard hard (payloadOctets ▸ read.payloadParsed)
  obtain ⟨header, signed⟩ := Policy.exists_signedParts?_of_built read built
  refine unreadable_of_vouched ?_ vouched ?_ signed (fun both => unreadable both.2) wallSeconds
  · rw [vouched.validate_eq, if_neg (by decide), if_neg (by simp)]
  · exact (Policy.insideWindow_secondsAt (Policy.clear_of_whole (by decide) rfl _ _)).mpr
      (by decide)

end Hard

end AccessControl

end Turnstile
