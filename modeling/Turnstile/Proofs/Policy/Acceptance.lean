import Mathlib
import Turnstile.Proofs.Credential.Classification
import Turnstile.Proofs.Policy.Agreement
import Turnstile.Proofs.Policy.Clock
set_option autoImplicit false

/-! Acceptance by the token check, for any token and any constraints. A token passes exactly if it
is a credible credential under the trusted key and meets the constraints, and its subject, if it has
one, holds no other values. Further constraints admit no further tokens, and the times at which a
token passes have no gaps. -/

namespace Turnstile

/-! ### Nested values -/

namespace Json

theorem string?_eq_some_iff {value : Json} {text : String} :
    value.string? = some text ↔ value = .string text := by
  cases value <;> simp [string?]

/-- A value that holds no other values. -/
def IsLeaf (value : Json) : Prop := value.array? = none ∧ value.object? = none

def Tree.IsLeaf : Tree → Prop
  | .array _ => False
  | .object _ => False
  | _ => True

theorem Tree.isLeaf_iff_of_build? {tree : Tree} {depth : Nat} {value : Json}
    (builds : tree.build? depth = some value) : tree.IsLeaf ↔ value.IsLeaf := by
  cases tree with
  | null =>
      cases builds
      exact iff_of_true trivial ⟨rfl, rfl⟩
  | bool found =>
      cases builds
      exact iff_of_true trivial ⟨rfl, rfl⟩
  | numeral numeral =>
      obtain ⟨number, _, rfl⟩ := Option.map_eq_some_iff.mp builds
      exact iff_of_true trivial ⟨rfl, rfl⟩
  | string body =>
      obtain ⟨text, _, rfl⟩ := Option.map_eq_some_iff.mp builds
      exact iff_of_true trivial ⟨rfl, rfl⟩
  | array items =>
      cases depth with
      | zero => cases builds
      | succ depth =>
          obtain ⟨values, _, rfl⟩ := Option.map_eq_some_iff.mp builds
          exact iff_of_false id (fun leaf => Option.some_ne_none _ leaf.1)
  | object members =>
      cases depth with
      | zero => cases builds
      | succ depth =>
          obtain ⟨values, _, rfl⟩ := Option.map_eq_some_iff.mp builds
          exact iff_of_false id (fun leaf => Option.some_ne_none _ leaf.2)

end Json

theorem Jws.hasPlainSubject_iff (members : List (String × Json.Tree)) :
    hasPlainSubject members = true ↔ ∀ tree, ("sub", tree) ∈ members → tree.IsLeaf := by
  rw [hasPlainSubject, List.all_eq_true]
  constructor
  · intro plain tree inside
    have leaf := plain _ inside
    cases tree <;> trivial
  · rintro leaves ⟨key, tree⟩ inside
    by_cases subject : key = "sub"
    · subst subject
      have leaf := leaves tree inside
      cases tree <;> first | rfl | cases leaf
    · simp [subject]

namespace Policy

/-! ### Credentials -/

/-- Octets are an object in which no standard claim is written twice. -/
def ClaimsOnce (octets : Bytes) : Prop :=
  ∃ written members, Json.Tree.parse? octets = some (.object written) ∧
    Json.Tree.namedMembers? written = some members ∧
    ∀ key ∈ Jws.registeredKeys, Json.Tree.occurrences key members ≤ 1

/-- A token of three segments: an object in order that names an algorithm, an object, and a signature
of both that verifies under the trusted octets of a key and this very algorithm. -/
structure SignedObjects (trusted : Bytes) (token : String) (compact : Jws.Compact)
    (algorithm : Jws.Algorithm) (header payload : List (String × Json)) : Prop where
  written : token = compact.render
  dotless : '.' ∉ compact.header ∧ '.' ∉ compact.payload ∧ '.' ∉ compact.signature
  headerRead : ∃ octets, compact.headerOctets? = some octets ∧ Jws.Header.InOrder octets ∧
    objectOctets? octets = some header
  named : Json.lookup? "alg" header = some (.string algorithm.name)
  accepted : algorithm ∈ [.rs256, .rs384, .rs512]
  verifies : ∃ hash key signature, algorithm.hash? = some hash ∧
    Rsa.PublicKey.decode? trusted = some key ∧ compact.signatureOctets? = some signature ∧
    Rsa.verifies key hash compact.signedOctets signature = true
  payloadRead : ∃ octets, compact.payloadOctets? = some octets ∧ ClaimsOnce octets ∧
    objectOctets? octets = some payload

/-- A payload meets constraints at a second. -/
structure Meets (wanted : Constraints) (seconds : Binary64) (payload : List (String × Json)) :
    Prop where
  expires : ∀ bound, Json.lookup? "exp" payload = some bound →
    ∃ number, bound = .number number ∧ seconds.value ≤ number.toBinary64.value
  notBefore : ∀ bound, Json.lookup? "nbf" payload = some bound →
    ∃ number, bound = .number number ∧ number.toBinary64.value ≤ seconds.value
  issuer : ∀ issuer, wanted.issuer = some issuer →
    Json.lookup? "iss" payload = some (.string issuer)
  audience : ∀ audience, wanted.audience = some audience →
    Json.lookup? "aud" payload = some (.string audience) ∨
      ∃ items, Json.lookup? "aud" payload = some (.array items) ∧ .string audience ∈ items

/-- A token is a credential with this header and payload, valid under constraints. -/
def Credible (wanted : Constraints) (trusted : Bytes) (seconds : Binary64) (token : String)
    (header payload : List (String × Json)) : Prop :=
  (∃ compact algorithm, SignedObjects trusted token compact algorithm header payload) ∧
    Meets wanted seconds payload

/-- The subject of a payload holds no other values. -/
def PlainSubject (payload : List (String × Json)) : Prop :=
  ∀ value, Json.lookup? "sub" payload = some value → value.IsLeaf

/-! ### The constraints -/

theorem respects_iff (bound : Option Json) (holds : Binary64 → Bool) :
    respects bound holds = true ↔
      ∀ value, bound = some value →
        ∃ number, value = .number number ∧ holds number.toBinary64 = true := by
  cases bound with
  | none => simp [respects]
  | some value =>
      cases value with
      | number number => simp [respects, Json.binary64?]
      | _ => simp [respects, Json.binary64?]

theorem issuerMatches_iff (wanted : Option String) (payload : List (String × Json)) :
    issuerMatches wanted payload = true ↔
      ∀ issuer, wanted = some issuer → Json.lookup? "iss" payload = some (.string issuer) := by
  cases wanted with
  | none => simp [issuerMatches]
  | some issuer =>
      simp only [issuerMatches, beq_iff_eq, Option.bind_eq_some_iff, Json.string?_eq_some_iff,
        exists_eq_right, Option.some.injEq, forall_eq']

theorem audienceMatches_iff (wanted : Option String) (payload : List (String × Json)) :
    audienceMatches wanted payload = true ↔
      ∀ audience, wanted = some audience →
        Json.lookup? "aud" payload = some (.string audience) ∨
          ∃ items, Json.lookup? "aud" payload = some (.array items) ∧ .string audience ∈ items := by
  cases wanted with
  | none => simp [audienceMatches]
  | some audience =>
      simp only [audienceMatches, Option.some.injEq, forall_eq']
      cases Json.lookup? "aud" payload with
      | none => simp
      | some value => cases value <;> simp [Json.string?_eq_some_iff]

theorem satisfies_iff (wanted : Constraints) (seconds : Binary64)
    (payload : List (String × Json)) :
    satisfies wanted seconds payload = true ↔ Meets wanted seconds payload := by
  rw [satisfies, Bool.and_eq_true, Bool.and_eq_true, Bool.and_eq_true, respects_iff, respects_iff,
    issuerMatches_iff, audienceMatches_iff]
  simp only [Binary64.le, decide_eq_true_eq]
  constructor
  · rintro ⟨⟨⟨expires, notBefore⟩, issuer⟩, audience⟩
    exact ⟨expires, notBefore, issuer, audience⟩
  · rintro ⟨expires, notBefore, issuer, audience⟩
    exact ⟨⟨⟨expires, notBefore⟩, issuer⟩, audience⟩

/-! ### The parts of a token -/

theorem acceptedAlgorithm?_eq_some_iff {header : List (String × Json)}
    {algorithm : Jws.Algorithm} :
    acceptedAlgorithm? header = some algorithm ↔
      algorithm ∈ [.rs256, .rs384, .rs512] ∧
        Json.lookup? "alg" header = some (.string algorithm.name) := by
  constructor
  · intro accepted
    unfold acceptedAlgorithm? at accepted
    split at accepted
    all_goals
      first
      | cases accepted
        rename_i named
        obtain ⟨value, found, text⟩ := Option.bind_eq_some_iff.mp named
        cases Json.string?_eq_some_iff.mp text
        exact ⟨by simp, found⟩
      | cases accepted
  · rintro ⟨known, named⟩
    rw [acceptedAlgorithm?, named, Option.bind_some, Json.string?]
    simp only [List.mem_cons, List.not_mem_nil, or_false] at known
    rcases known with rfl | rfl | rfl <;> rfl

theorem objectOctets?_of_parse? {octets : Bytes} {tree : Json.Tree}
    (parsed : Json.Tree.parse? octets = some tree) :
    objectOctets? octets = objectOfTree? tree := by
  rw [objectOctets?, Json.parse?, parsed]
  rfl

theorem SignedObjects.unique {trusted : Bytes} {token : String} {compact other : Jws.Compact}
    {algorithm otherAlgorithm : Jws.Algorithm}
    {header payload otherHeader otherPayload : List (String × Json)}
    (signed : SignedObjects trusted token compact algorithm header payload)
    (signedOther : SignedObjects trusted token other otherAlgorithm otherHeader otherPayload) :
    header = otherHeader ∧ payload = otherPayload := by
  have form := (Jws.Compact.ofText?_eq_some_iff _ _).mpr ⟨signed.written, signed.dotless⟩
  have formOther :=
    (Jws.Compact.ofText?_eq_some_iff _ _).mpr ⟨signedOther.written, signedOther.dotless⟩
  cases form.symm.trans formOther
  obtain ⟨headerOctets, headerDecoded, _, headerBuilt⟩ := signed.headerRead
  obtain ⟨_, headerDecodedOther, _, headerBuiltOther⟩ := signedOther.headerRead
  cases headerDecoded.symm.trans headerDecodedOther
  obtain ⟨octets, decoded, _, built⟩ := signed.payloadRead
  obtain ⟨_, decodedOther, _, builtOther⟩ := signedOther.payloadRead
  cases decoded.symm.trans decodedOther
  exact ⟨Option.some.inj (headerBuilt.symm.trans headerBuiltOther),
    Option.some.inj (built.symm.trans builtOther)⟩

section Parts

variable {written : List (Bytes × Json.Tree)} {members : List (String × Json.Tree)}
  {payload : List (String × Json)}

theorem hasPlainSubject_iff_plainSubject
    (named : Json.Tree.namedMembers? written = some members)
    (built : objectOfTree? (.object written) = some payload)
    (once : Json.Tree.occurrences "sub" members ≤ 1) :
    Jws.hasPlainSubject members = true ↔ PlainSubject payload := by
  have lookups := Json.lookup?_of_build? named built once
  rw [Jws.hasPlainSubject_iff]
  constructor
  · intro leaves value found
    rw [lookups] at found
    obtain ⟨tree, inside, builds⟩ := Option.bind_eq_some_iff.mp found
    exact (Json.Tree.isLeaf_iff_of_build? builds).mp (leaves tree (Json.mem_of_lookup? inside))
  · intro plain tree inside
    obtain ⟨unsorted, found, _⟩ := Json.exists_buildMembers?_of_build? built
    obtain ⟨value, builds⟩ := Json.exists_build?_of_mem named found inside
    have leaf := plain value (by
      rw [lookups, Json.Tree.lookup?_of_mem inside once]
      exact builds)
    exact (Json.Tree.isLeaf_iff_of_build? builds).mpr leaf

theorem algorithm?_of_inOrder {octets : Bytes} {header : List (String × Json)}
    {algorithm : Jws.Algorithm} (inOrder : Jws.Header.InOrder octets)
    (built : objectOctets? octets = some header)
    (named : Json.lookup? "alg" header = some (.string algorithm.name)) :
    ∃ tree, Json.Tree.parse? octets = some tree ∧
      Jws.Header.algorithm? tree = some algorithm := by
  obtain ⟨written, members, parsed, read, once, typed⟩ := inOrder
  rw [objectOctets?_of_parse? parsed] at built
  have onceNamed : Json.Tree.occurrences "alg" members ≤ 1 :=
    of_decide_eq_true (List.all_eq_true.mp once "alg" (by simp))
  rw [Json.lookup?_of_build? read built onceNamed] at named
  obtain ⟨tree, found, builds⟩ := Option.bind_eq_some_iff.mp named
  obtain ⟨name, text⟩ := Option.isSome_iff_exists.mp (typed _ (Json.mem_of_lookup? found))
  rw [Json.Tree.build?_of_text? text] at builds
  cases builds
  have member : Jws.Header.memberText? "alg" members = some algorithm.name := by
    rw [Jws.Header.memberText?, Json.Tree.required?, found, Option.bind_some, text]
  exact ⟨_, parsed, Jws.Header.algorithm?_of_members read once typed member⟩

/-- The parts of a token are given out exactly if it is signed and its subject is plain. -/
theorem signedParts?_iff_signedObjects {trusted : Bytes} {token : String}
    {header payload : List (String × Json)} :
    signedParts? (Rsa.PublicKey.decode? trusted) token = some (header, payload) ↔
      (∃ compact algorithm, SignedObjects trusted token compact algorithm header payload) ∧
        PlainSubject payload := by
  rw [signedParts?_eq_some_iff]
  constructor
  · rintro ⟨compact, algorithm, form, headerFound, accepted, opened⟩
    obtain ⟨octets, tree, verified, parsed, built, readable⟩ :=
      (Jws.openWith_eq_ok_iff _ _ _ _ _).mp opened
    obtain ⟨headerOctets, headerTree, hash, key, signature, headerDecoded, headerParsed, named,
      hashFound, keyFound, signatureDecoded, verifies, payloadDecoded⟩ :=
      (Jws.verifiedPayload_eq_ok_iff _ _ _ _).mp verified
    obtain ⟨written, dotless⟩ := (Jws.Compact.ofText?_eq_some_iff _ _).mp form
    obtain ⟨known, text⟩ := acceptedAlgorithm?_eq_some_iff.mp accepted
    obtain ⟨members, object, once, plain⟩ := Jws.members_of_hasReadableClaims readable
    obtain ⟨claims, rfl, read⟩ := Json.Tree.object_of_members? object
    have claimsOnce : ∀ key ∈ Jws.registeredKeys, Json.Tree.occurrences key members ≤ 1 :=
      fun key inside => of_decide_eq_true (List.all_eq_true.mp once key inside)
    rw [headerDecoded, Option.bind_some] at headerFound
    refine ⟨⟨compact, algorithm, ?_⟩,
      (hasPlainSubject_iff_plainSubject read built (claimsOnce _ (by decide))).mp plain⟩
    exact
      { written := written
        dotless := dotless
        headerRead := ⟨headerOctets, headerDecoded,
          Jws.Header.inOrder_of_algorithm? headerParsed named, headerFound⟩
        named := text
        accepted := known
        verifies := ⟨hash, key, signature, hashFound, keyFound, signatureDecoded, verifies⟩
        payloadRead := ⟨octets, payloadDecoded, ⟨claims, members, parsed, read, claimsOnce⟩,
          (objectOctets?_of_parse? parsed).trans built⟩ }
  · rintro ⟨⟨compact, algorithm, signed⟩, plain⟩
    obtain ⟨headerOctets, headerDecoded, inOrder, headerFound⟩ := signed.headerRead
    obtain ⟨hash, key, signature, hashFound, keyFound, signatureDecoded, verifies⟩ :=
      signed.verifies
    obtain ⟨octets, payloadDecoded, ⟨claims, members, parsed, read, claimsOnce⟩, built⟩ :=
      signed.payloadRead
    obtain ⟨headerTree, headerParsed, named⟩ := algorithm?_of_inOrder inOrder headerFound signed.named
    rw [objectOctets?_of_parse? parsed] at built
    have plainTree := (hasPlainSubject_iff_plainSubject read built (claimsOnce _ (by decide))).mpr plain
    have once : Json.Tree.eachAtMostOnce Jws.registeredKeys members = true :=
      List.all_eq_true.mpr fun key inside => decide_eq_true (claimsOnce key inside)
    have readable : Jws.hasReadableClaims (.object claims) = true := by
      rw [Jws.hasReadableClaims, read, Option.any_some, once, plainTree]
      rfl
    have verified := (Jws.verifiedPayload_eq_ok_iff _ _ _ _).mpr
      ⟨headerOctets, headerTree, hash, key, signature, headerDecoded, headerParsed, named,
        hashFound, keyFound, signatureDecoded, verifies, payloadDecoded⟩
    refine ⟨compact, algorithm,
      (Jws.Compact.ofText?_eq_some_iff _ _).mpr ⟨signed.written, signed.dotless⟩, ?_,
      acceptedAlgorithm?_eq_some_iff.mpr ⟨signed.accepted, signed.named⟩,
      (Jws.openWith_eq_ok_iff _ _ _ _ _).mpr ⟨octets, _, verified, parsed, built, readable⟩⟩
    rw [headerDecoded, Option.bind_some, headerFound]

end Parts

/-! ### The verdict -/

/-- A token passes exactly if it is credible and its subject is plain. -/
theorem verdict_eq_some_iff {wanted : Constraints} {trusted : Bytes} {now : Int} {token : String}
    {header payload : List (String × Json)} :
    wanted.verdict trusted now token = some (header, payload) ↔
      Credible wanted trusted (wanted.seconds now) token header payload ∧
        PlainSubject payload := by
  rw [Constraints.verdict, Option.filter_eq_some_iff, signedParts?_iff_signedObjects, satisfies_iff,
    Credible, and_right_comm]

theorem Verdict.toJson_eq_iff {verdict : Verdict} {header payload : List (String × Json)} :
    verdict.toJson = .array [.bool true, .object header, .object payload] ↔
      verdict = some (header, payload) := by
  cases verdict with
  | none => simp [toJson]
  | some parts => simp [toJson, Prod.ext_iff]

theorem Verdict.map_toJson_eq_iff {checked : Except ConstraintFault Verdict}
    {header payload : List (String × Json)} :
    checked.map toJson = .ok (.array [.bool true, .object header, .object payload]) ↔
      checked = .ok (some (header, payload)) := by
  cases checked with
  | error fault => simp [Except.map]
  | ok verdict => rw [Except.map, Except.ok.injEq, toJson_eq_iff, Except.ok.injEq]

/-! ### Further constraints -/

/-- An object with one member more than others, wherever it stands, and each key once. -/
structure Extends (extended members : List (String × Json)) (member : String × Json) : Prop where
  once : (extended.map Prod.fst).Nodup
  same : extended.Perm (member :: members)

namespace Constraints

/-- Constraints for the same time that ask for no less. -/
structure Narrows (strict loose : Constraints) : Prop where
  time : strict.time = loose.time
  issuer : ∀ issuer, loose.issuer = some issuer → strict.issuer = some issuer
  audience : ∀ audience, loose.audience = some audience → strict.audience = some audience

section Extended

variable {extended members : List (String × Json)} {key : String} {value : Json}
  {wanted : Constraints} {trusted : Bytes}

theorem admitted_object_iff :
    admitted (.object members) = .ok (wanted, trusted) ↔
      (∀ member ∈ members, Fits member) ∧ none.withMembers members = wanted ∧ wanted.cert ≠ "" ∧
        Rsa.trustedOctets (Utf8.encode wanted.cert) = .ok trusted := by
  rw [admitted_eq_ok_iff, ofJson_eq_ok_iff]
  constructor
  · rintro ⟨⟨found, form, fits, read, filled⟩, trusts⟩
    cases form
    exact ⟨fits, read, filled, trusts⟩
  · rintro ⟨fits, read, filled, trusts⟩
    exact ⟨⟨members, rfl, fits, read, filled⟩, trusts⟩

theorem admitted_extends_iff (extend : Extends extended members (key, value)) :
    admitted (.object extended) = .ok (wanted, trusted) ↔
      Fits (key, value) ∧ (∀ member ∈ members, Fits member) ∧
        (none.withMembers [(key, value)]).withMembers members = wanted ∧ wanted.cert ≠ "" ∧
        Rsa.trustedOctets (Utf8.encode wanted.cert) = .ok trusted := by
  rw [admitted_eq_ok_iff_of_perm extend.once extend.same, admitted_object_iff, List.forall_mem_cons,
    and_assoc]
  refine and_congr_right fun _ => and_congr_right fun fits => ?_
  rw [withMembers_cons fits]

/-- Without an issuer or an audience that they ask for, constraints are admitted and ask for no
more. -/
theorem exists_admitted_of_extends (known : key ∈ ["iss", "aud"])
    (extend : Extends extended members (key, value))
    (found : admitted (.object extended) = .ok (wanted, trusted)) :
    ∃ loose, admitted (.object members) = .ok (loose, trusted) ∧ wanted.Narrows loose := by
  obtain ⟨fitsFirst, fits, rfl, filled, trusts⟩ := (admitted_extends_iff extend).mp found
  have keeps : ∀ {start : Constraints}, start.cert = none.cert → start.time = none.time →
      (start.withMembers members).cert = (none.withMembers members).cert ∧
        (start.withMembers members).Narrows (none.withMembers members) := by
    intro start cert time
    refine ⟨by simp only [withMembers, cert], by simp only [withMembers, time], ?_, ?_⟩
    · intro issuer asked
      simp only [withMembers, none, Option.or_none] at asked ⊢
      rw [asked, Option.some_or]
    · intro audience asked
      simp only [withMembers, none, Option.or_none] at asked ⊢
      rw [asked, Option.some_or]
  have first : (none.withMembers [(key, value)]).cert = none.cert ∧
      (none.withMembers [(key, value)]).time = none.time := by
    simp only [List.mem_cons, List.not_mem_nil, or_false] at known
    rcases known with rfl | rfl <;> exact ⟨rfl, rfl⟩
  obtain ⟨cert, narrows⟩ := keeps first.1 first.2
  rw [cert] at filled trusts
  exact ⟨none.withMembers members, admitted_object_iff.mpr ⟨fits, rfl, filled, trusts⟩, narrows⟩

theorem admitted_of_extends_time {nanos : Number}
    (extend : Extends extended members ("time", .number nanos))
    (found : admitted (.object extended) = .ok (wanted, trusted)) :
    wanted.time = some nanos.toBinary64 ∧
      ∀ other otherExtended, Extends otherExtended members ("time", .number other) →
        admitted (.object otherExtended) =
          .ok ({ wanted with time := some other.toBinary64 }, trusted) := by
  obtain ⟨_, fits, rfl, filled, trusts⟩ := (admitted_extends_iff extend).mp found
  have untimed : time? members = Option.none := by
    have once := (extend.same.map Prod.fst).nodup_iff.mp extend.once
    rw [List.map_cons, List.nodup_cons] at once
    cases written : written? "time" members with
    | none => rw [time?, written, Option.bind_none]
    | some value => exact absurd (List.mem_map_of_mem (mem_of_written? written)) once.1
  have timed : ∀ number : Number,
      ((none.withMembers [("time", .number number)]).withMembers members) =
        { none.withMembers members with time := some number.toBinary64 } := by
    intro number
    simp only [withMembers, untimed, Option.none_or]
    rfl
  rw [timed] at filled trusts ⊢
  refine ⟨rfl, fun other otherExtended extendOther => ?_⟩
  exact (admitted_extends_iff extendOther).mpr ⟨.time other, fits, timed other, filled, trusts⟩

end Extended

end Constraints

theorem Meets.of_narrows {strict loose : Constraints} {seconds : Binary64}
    {payload : List (String × Json)} (meets : Meets strict seconds payload)
    (narrows : strict.Narrows loose) : Meets loose seconds payload where
  expires := meets.expires
  notBefore := meets.notBefore
  issuer := fun issuer asked => meets.issuer issuer (narrows.issuer issuer asked)
  audience := fun audience asked => meets.audience audience (narrows.audience audience asked)

/-- The upper end of a window is judged by the later time, the lower one by the earlier. -/
theorem Meets.between {before between after : Constraints} {early middle late : Binary64}
    {payload : List (String × Json)} (meetsBefore : Meets before early payload)
    (meetsAfter : Meets after late payload) (above : early.value ≤ middle.value)
    (below : middle.value ≤ late.value) (issuer : between.issuer = before.issuer)
    (audience : between.audience = before.audience) : Meets between middle payload where
  expires := by
    intro bound found
    obtain ⟨number, rfl, within⟩ := meetsAfter.expires bound found
    exact ⟨number, rfl, Int.le_trans below within⟩
  notBefore := by
    intro bound found
    obtain ⟨number, rfl, within⟩ := meetsBefore.notBefore bound found
    exact ⟨number, rfl, Int.le_trans within above⟩
  issuer := by
    rw [issuer]
    exact meetsBefore.issuer
  audience := by
    rw [audience]
    exact meetsBefore.audience

/-! ### Acceptance -/

section Acceptance

variable {now : Int} {token : String} {members : List (String × Json)}
  {parts : List (String × Json) × List (String × Json)}

theorem decodeVerify_of_extends {extended : List (String × Json)} {key : String} {value : Json}
    (known : key ∈ ["iss", "aud"]) (extend : Extends extended members (key, value))
    (accepted : decodeVerify now token (.object extended) = .ok (some parts)) :
    decodeVerify now token (.object members) = .ok (some parts) := by
  obtain ⟨wanted, trusted, found, verdict⟩ := decodeVerify_eq_ok_iff.mp accepted
  obtain ⟨loose, foundLoose, narrows⟩ :=
    Constraints.exists_admitted_of_extends known extend found
  refine decodeVerify_eq_ok_iff.mpr ⟨loose, trusted, foundLoose, ?_⟩
  obtain ⟨⟨signed, meets⟩, plain⟩ := verdict_eq_some_iff.mp verdict
  rw [Constraints.seconds, narrows.time] at meets
  exact verdict_eq_some_iff.mpr ⟨⟨signed, meets.of_narrows narrows⟩, plain⟩

theorem decodeVerify_between {before between after : List (String × Json)}
    {first middle last : Number} {others : List (String × Json) × List (String × Json)}
    (extendFirst : Extends before members ("time", .number first))
    (extendMiddle : Extends between members ("time", .number middle))
    (extendLast : Extends after members ("time", .number last))
    (above : first.toBinary64.value ≤ middle.toBinary64.value)
    (below : middle.toBinary64.value ≤ last.toBinary64.value)
    (acceptedFirst : decodeVerify now token (.object before) = .ok (some parts))
    (acceptedLast : decodeVerify now token (.object after) = .ok (some others)) :
    decodeVerify now token (.object between) = .ok (some parts) := by
  obtain ⟨wanted, trusted, found, verdictFirst⟩ := decodeVerify_eq_ok_iff.mp acceptedFirst
  obtain ⟨timed, retime⟩ := Constraints.admitted_of_extends_time extendFirst found
  obtain ⟨late, trustedLast, foundLast, verdictLast⟩ := decodeVerify_eq_ok_iff.mp acceptedLast
  rw [retime last after extendLast] at foundLast
  cases foundLast
  have same : parts = others :=
    Option.some.inj ((Option.filter_eq_some_iff.mp verdictFirst).1.symm.trans
      (Option.filter_eq_some_iff.mp verdictLast).1)
  subst same
  refine decodeVerify_eq_ok_iff.mpr ⟨_, trusted, retime middle between extendMiddle, ?_⟩
  obtain ⟨⟨signed, meetsFirst⟩, plain⟩ := verdict_eq_some_iff.mp verdictFirst
  obtain ⟨⟨_, meetsLast⟩, _⟩ := verdict_eq_some_iff.mp verdictLast
  rw [Constraints.seconds, timed] at meetsFirst
  exact verdict_eq_some_iff.mpr ⟨⟨signed, meetsFirst.between meetsLast (secondsOf_mono above)
    (secondsOf_mono below) rfl rfl⟩, plain⟩

end Acceptance

/-- The token check gives out the header and the payload of exactly the credible tokens with a plain
subject, and nothing of any other token. An issuer or an audience that is asked for admits no
further token, and the times at which a token passes form an interval. -/
theorem decodeVerify_accepts_iff (now : Int) (token : String) :
    (∀ constraints wanted trusted nanos, Constraints.ofJson constraints = .ok wanted →
      Rsa.trustedOctets (Utf8.encode wanted.cert) = .ok trusted → wanted.time = some nanos →
        (∀ header payload, (decodeVerify now token constraints).map Verdict.toJson =
            .ok (.array [.bool true, .object header, .object payload]) ↔
          Credible wanted trusted (secondsOf nanos) token header payload ∧
            PlainSubject payload) ∧
        ((∀ header payload, ¬ (Credible wanted trusted (secondsOf nanos) token header payload ∧
            PlainSubject payload)) →
          (decodeVerify now token constraints).map Verdict.toJson =
            .ok (.array [.bool false, .object [], .object []]))) ∧
    (∀ members extended key text parts, key ∈ ["iss", "aud"] →
      Extends extended members (key, .string text) →
        decodeVerify now token (.object extended) = .ok (some parts) →
          decodeVerify now token (.object members) = .ok (some parts)) ∧
    ∀ members before between after, ∀ first middle last : Number,
      Extends before members ("time", .number first) →
      Extends between members ("time", .number middle) →
      Extends after members ("time", .number last) →
      first.toBinary64.value ≤ middle.toBinary64.value →
      middle.toBinary64.value ≤ last.toBinary64.value →
        ∀ parts others, decodeVerify now token (.object before) = .ok (some parts) →
          decodeVerify now token (.object after) = .ok (some others) →
            decodeVerify now token (.object between) = .ok (some parts) := by
  refine ⟨?_, fun _ _ _ _ _ known extend accepted => decodeVerify_of_extends known extend accepted,
    fun _ _ _ _ _ _ _ extendFirst extendMiddle extendLast above below _ _ acceptedFirst
      acceptedLast => decodeVerify_between extendFirst extendMiddle extendLast above below
        acceptedFirst acceptedLast⟩
  intro constraints wanted trusted nanos read trusts timed
  have admitted := Constraints.admitted_eq_ok_iff.mpr ⟨read, trusts⟩
  have seconds : wanted.seconds now = secondsOf nanos := by rw [Constraints.seconds, timed]
  have verdict : decodeVerify now token constraints = .ok (wanted.verdict trusted now token) := by
    rw [decodeVerify_eq, admitted]
    rfl
  rw [verdict, ← seconds]
  refine ⟨fun header payload => ?_, fun refused => ?_⟩
  · rw [Verdict.map_toJson_eq_iff, Except.ok.injEq, verdict_eq_some_iff]
  · cases found : wanted.verdict trusted now token with
    | none => rfl
    | some parts => exact absurd (verdict_eq_some_iff.mp found) (refused parts.1 parts.2)

/-! ### Examples -/

section Examples

open Credential (Parts)

/-- A text and a signature of it make a credential, if the text is an object with each claim once. -/
theorem exists_signedObjects_of_sign {pair : KeyPair} {parts : Parts}
    {payload : List (String × Json)}
    (named : parts.header = Utf8.encodeChars (Jws.Header.render .rs256 pair.kid))
    (once : ClaimsOnce parts.payload) (built : objectOctets? parts.payload = some payload)
    (signed : Rsa.sign pair.key .sha256 parts.compact.signedOctets = .ok parts.signature) :
    ∃ header, SignedObjects pair.publicKey.encode parts.compact.render parts.compact .rs256
      header payload := by
  have checked : pair.publicKey.Checked := Rsa.PrivateKey.toPublic_checked pair.checked
  obtain ⟨tree, parsed, inOrder⟩ :=
    Option.bind_eq_some_iff.mp (Jws.Header.algorithm?_render .rs256 pair.kid)
  rw [← named] at parsed
  obtain ⟨header, headerBuilt⟩ := Jws.Header.exists_build?_of_algorithm? inOrder
  refine ⟨header, ?_⟩
  exact
    { written := rfl
      dotless := ⟨Base64.dot_not_mem_encodeUrl _, Base64.dot_not_mem_encodeUrl _,
        Base64.dot_not_mem_encodeUrl _⟩
      headerRead := ⟨parts.header, Base64.decodeUrl?_encodeUrl _,
        Jws.Header.inOrder_of_algorithm? parsed inOrder,
        (objectOctets?_of_parse? parsed).trans headerBuilt⟩
      named := Jws.Header.lookup?_of_algorithm? inOrder headerBuilt
      accepted := by decide
      verifies := ⟨.sha256, pair.publicKey, parts.signature, rfl,
        Rsa.PublicKey.decode?_encode_of_checked checked, Base64.decodeUrl?_encodeUrl _,
        Rsa.verifies_of_sign pair.checked signed⟩
      payloadRead := ⟨parts.payload, Base64.decodeUrl?_encodeUrl _, once, built⟩ }

theorem meets_of_timeless {wanted : Constraints} {payload : List (String × Json)}
    (expires : Json.lookup? "exp" payload = none) (notBefore : Json.lookup? "nbf" payload = none)
    (issuer : wanted.issuer = none ∨
      (Json.lookup? "iss" payload).bind Json.string? = wanted.issuer)
    (audience : wanted.audience = none) (seconds : Binary64) : Meets wanted seconds payload where
  expires := by
    intro bound found
    cases expires.symm.trans found
  notBefore := by
    intro bound found
    cases notBefore.symm.trans found
  issuer := by
    intro wantedIssuer asked
    rcases issuer with any | same
    · cases any.symm.trans asked
    · obtain ⟨value, found, text⟩ := Option.bind_eq_some_iff.mp (same.trans asked)
      rw [found, Json.string?_eq_some_iff.mp text]
  audience := by
    intro wantedAudience asked
    cases audience.symm.trans asked

theorem claimsOnce_of_any {octets : Bytes}
    (once : ((Json.Tree.parse? octets).bind Json.Tree.members?).any
      (Json.Tree.eachAtMostOnce Jws.registeredKeys) = true) : ClaimsOnce octets := by
  obtain ⟨members, found, each⟩ := (Option.any_eq_true _ _).mp once
  obtain ⟨tree, parsed, object⟩ := Option.bind_eq_some_iff.mp found
  obtain ⟨written, rfl, read⟩ := Json.Tree.object_of_members? object
  exact ⟨written, members, parsed, read, fun key inside =>
    of_decide_eq_true (List.all_eq_true.mp each key inside)⟩

def examplePair : KeyPair := ⟨"main", exampleKey, exampleKey_check⟩

/-- A token of a payload that is not signed. -/
def exampleParts (payload : String) : Parts :=
  ⟨Utf8.encodeChars (Jws.Header.render .rs256 "main"), Utf8.encodeChars payload.toList, []⟩

/-- Constraints that trust the example key at some nanosecond. -/
def exampleConstraints (issuer : Option String) (nanos : Int) : List (String × Json) :=
  ("cert", .string examplePair.publicPem) ::
    ((issuer.map fun issuer => ("iss", .string issuer)).toList ++
      [("time", .number (.int nanos))])

theorem ofJson_exampleConstraints (issuer : Option String) (nanos : Int) :
    Constraints.ofJson (.object (exampleConstraints issuer nanos)) =
      .ok ⟨examplePair.publicPem, issuer, none, some (Number.int nanos).toBinary64⟩ := by
  have fits : ∀ member ∈ exampleConstraints issuer nanos, Constraints.Fits member := by
    cases issuer with
    | none =>
        simp only [exampleConstraints, Option.map_none, Option.toList_none, List.nil_append,
          List.forall_mem_cons]
        exact ⟨.text (by decide) _, .time _, nofun⟩
    | some issuer =>
        simp only [exampleConstraints, Option.map_some, Option.toList_some, List.singleton_append,
          List.forall_mem_cons]
        exact ⟨.text (by decide) _, .text (by decide) _, .time _, nofun⟩
  refine Constraints.ofJson_eq_ok_iff.mpr ⟨_, rfl, fits, ?_, publicPem_ne_empty examplePair⟩
  cases issuer <;> rfl

/-- A credential whose subject is a list is credible, and yet it does not pass. -/
theorem credible_subject_refused :
    ∃ (parts : Parts) (header : List (String × Json)),
      Credible ⟨examplePair.publicPem, none, none, some (Number.int 0).toBinary64⟩
        examplePair.publicKey.encode (secondsOf (Number.int 0).toBinary64) parts.compact.render
        header [("sub", .array [])] ∧
      decodeVerify 0 parts.compact.render (.object (exampleConstraints none 0)) = .ok none := by
  obtain ⟨parts, named, payload, signed⟩ := Credential.exists_signed examplePair
    (exampleParts "\x7b\"sub\":[]\x7d") (by decide +kernel)
  have built : objectOctets? parts.payload = some [("sub", .array [])] := by
    rw [payload]
    cbv
  have once : ClaimsOnce parts.payload := by
    rw [payload]
    exact claimsOnce_of_any (by decide +kernel)
  have known : parts.header = Utf8.encodeChars (Jws.Header.render .rs256 examplePair.kid) := named
  obtain ⟨header, objects⟩ := exists_signedObjects_of_sign known once built signed
  have admitted := Constraints.admitted_eq_ok_iff.mpr
    ⟨ofJson_exampleConstraints none 0, Rsa.trustedOctets_publicPem examplePair⟩
  refine ⟨parts, header, ⟨⟨_, _, objects⟩, ?_⟩, ?_⟩
  · exact meets_of_timeless rfl rfl (.inl rfl) rfl _
  · refine decodeVerify_eq_ok_iff.mpr ⟨_, _, admitted, ?_⟩
    rw [Option.eq_none_iff_forall_ne_some]
    rintro ⟨otherHeader, otherPayload⟩ passes
    obtain ⟨⟨⟨_, _, objectsOther⟩, _⟩, plain⟩ := verdict_eq_some_iff.mp passes
    cases (objects.unique objectsOther).2
    cases (plain _ rfl).1

/-- A credential of an issuer and without times of its own passes at any time, for its issuer and
for any; nothing is given out of a text without dots. -/
theorem decodeVerify_accepts_iff_example :
    ∃ (parts : Parts) (header : List (String × Json)),
      (decodeVerify 0 parts.compact.render (.object (exampleConstraints (some "x") 5))).map
          Verdict.toJson =
        .ok (.array [.bool true, .object header, .object [("iss", .string "x")]]) ∧
      decodeVerify 0 parts.compact.render (.object (exampleConstraints none 6)) =
        .ok (some (header, [("iss", .string "x")])) ∧
      (decodeVerify 0 "" (.object (exampleConstraints none 5))).map Verdict.toJson =
        .ok (.array [.bool false, .object [], .object []]) := by
  obtain ⟨parts, named, payload, signed⟩ := Credential.exists_signed examplePair
    (exampleParts "\x7b\"iss\":\"x\"\x7d") (by decide +kernel)
  have built : objectOctets? parts.payload = some [("iss", .string "x")] := by
    rw [payload]
    cbv
  have once : ClaimsOnce parts.payload := by
    rw [payload]
    exact claimsOnce_of_any (by decide +kernel)
  have known : parts.header = Utf8.encodeChars (Jws.Header.render .rs256 examplePair.kid) := named
  obtain ⟨header, objects⟩ := exists_signedObjects_of_sign known once built signed
  have plain : PlainSubject [("iss", .string "x")] := by
    intro value found
    cases found
  obtain ⟨decides, narrows, between⟩ := decodeVerify_accepts_iff 0 parts.compact.render
  have passes : ∀ nanos : Int,
      (decodeVerify 0 parts.compact.render (.object (exampleConstraints (some "x") nanos))).map
          Verdict.toJson =
        .ok (.array [.bool true, .object header, .object [("iss", .string "x")]]) := by
    intro nanos
    refine ((decides _ _ _ _ (ofJson_exampleConstraints (some "x") nanos)
      (Rsa.trustedOctets_publicPem examplePair) rfl).1 _ _).mpr ⟨⟨⟨_, _, objects⟩, ?_⟩, plain⟩
    exact meets_of_timeless rfl rfl (.inr rfl) rfl _
  have extendsIssuer : ∀ nanos : Int, Extends (exampleConstraints (some "x") nanos)
      (exampleConstraints none nanos) ("iss", .string "x") :=
    fun nanos => ⟨(by decide : ["cert", "iss", "time"].Nodup), .swap _ _ _⟩
  have extendsTime : ∀ nanos : Int, Extends (exampleConstraints none nanos)
      [("cert", .string examplePair.publicPem)] ("time", .number (.int nanos)) :=
    fun nanos => ⟨(by decide : ["cert", "time"].Nodup), .swap _ _ _⟩
  have anyIssuer : ∀ nanos : Int,
      decodeVerify 0 parts.compact.render (.object (exampleConstraints none nanos)) =
        .ok (some (header, [("iss", .string "x")])) :=
    fun nanos => narrows _ _ _ _ _ (by decide) (extendsIssuer nanos)
      (Verdict.map_toJson_eq_iff.mp (passes nanos))
  refine ⟨parts, header, passes 5, ?_, ?_⟩
  · exact between _ _ _ _ _ _ _ (extendsTime 5) (extendsTime 6) (extendsTime 7)
      (Binary64.value_ofInt_mono (by decide)) (Binary64.value_ofInt_mono (by decide)) _ _
      (anyIssuer 5) (anyIssuer 7)
  · refine ((decodeVerify_accepts_iff 0 "").1 _ _ _ _ (ofJson_exampleConstraints none 5)
      (Rsa.trustedOctets_publicPem examplePair) rfl).2 ?_
    rintro header payload ⟨⟨⟨compact, _, objects⟩, _⟩, _⟩
    have form := (Jws.Compact.ofText?_eq_some_iff _ _).mpr ⟨objects.written, objects.dotless⟩
    cases form

end Examples

end Policy

end Turnstile
