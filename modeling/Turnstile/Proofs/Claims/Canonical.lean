import Mathlib.Data.Option.Basic
import Turnstile.Proofs.Claims.Handover
import Turnstile.Proofs.Claims.Wire
import Turnstile.Proofs.Json.Spelling
set_option autoImplicit false

/-! The canonical text of claims. Claims may be spelled in many ways: as an object with its members
in any order and among others, with null for what is absent, or as an array of their values. The
text that is written for claims is one of these spellings, it is read as the same claims, and two
texts that are read as claims have one canonical text exactly if they spell the same claims. -/

namespace Turnstile

namespace Role

/-- A role is spelled as its name, or as an object with its name for a key and null. -/
inductive Spelled : Json.Tree → Role → Prop
  | name {body : Bytes} {role : Role} (read : Json.text? body = some role.name) :
      Spelled (.string body) role
  | key {body : Bytes} {role : Role} (read : Json.text? body = some role.name) :
      Spelled (.object [(body, .null)]) role

theorem ofName?_eq_some_iff {text : String} {role : Role} :
    ofName? text = some role ↔ text = role.name := by
  constructor
  · intro named
    unfold ofName? at named
    split at named
    · cases named
      assumption
    · split at named
      · cases named
        assumption
      · cases named
  · rintro rfl
    exact ofName?_name role

private theorem bind_ofName?_eq_some_iff {body : Bytes} {role : Role} :
    (Json.text? body).bind ofName? = some role ↔ Json.text? body = some role.name := by
  simp only [Option.bind_eq_some_iff, ofName?_eq_some_iff, exists_eq_right]

theorem ofTree?_eq_some_iff {tree : Json.Tree} {role : Role} :
    ofTree? tree = some role ↔ Spelled tree role := by
  constructor
  · intro read
    unfold ofTree? at read
    split at read
    · exact .name (bind_ofName?_eq_some_iff.mp read)
    · exact .key (bind_ofName?_eq_some_iff.mp read)
    · cases read
  · rintro (⟨read⟩ | ⟨read⟩)
    · exact bind_ofName?_eq_some_iff.mpr read
    · exact bind_ofName?_eq_some_iff.mpr read

end Role

namespace Claims

open Json.Tree (Has HasOr SpellsInt64 SpellsList SpellsOptionalText SpellsText)

/-! ### Spellings -/

/-- Members spell claims: each known key comes at most once, and at the keys stands what claims say,
in any order and among any other members. -/
structure SpelledBy (members : List (String × Json.Tree)) (claims : Claims) : Prop where
  once : ∀ key ∈ keys, Json.Tree.occurrences key members ≤ 1
  subject : Has "sub" SpellsText members claims.subject
  issuer : Has "iss" SpellsText members claims.issuer
  audience : HasOr "aud" none SpellsOptionalText members claims.audience
  issuedAt : Has "iat" SpellsInt64 members claims.issuedAt
  notBefore : Has "nbf" SpellsInt64 members claims.notBefore
  expires : Has "exp" SpellsInt64 members claims.expires
  tokenId : HasOr "jti" none SpellsOptionalText members claims.tokenId
  roles : HasOr "roles" [] (SpellsList Role.Spelled) members claims.roles

/-- Claims are spelled as an object, or as an array of the values of the keys in order, where the
last ones may be missing. -/
inductive Spelled : Json.Tree → Claims → Prop
  | object {written : List (Bytes × Json.Tree)} {members : List (String × Json.Tree)}
      {claims : Claims} (named : Json.Tree.namedMembers? written = some members)
      (spelled : SpelledBy members claims) : Spelled (.object written) claims
  | array {items : List Json.Tree} {claims : Claims} (fits : items.length ≤ keys.length)
      (spelled : SpelledBy (keys.zip items) claims) : Spelled (.array items) claims

/-! ### Reading -/

section Members

variable {members : List (String × Json.Tree)} {claims : Claims}

section Once

variable (once : ∀ key ∈ keys, Json.Tree.occurrences key members ≤ 1) {key : String}
  (known : key ∈ keys)

include once known

private theorem text_iff {text : String} :
    Json.Tree.required? key Json.Tree.text? members = some text ↔
      Has key SpellsText members text :=
  Json.Tree.required?_eq_some_iff Json.Tree.text?_eq_some_iff (once key known)

private theorem int64_iff {value : Int64} :
    Json.Tree.required? key Json.Tree.int64? members = some value ↔
      Has key SpellsInt64 members value :=
  Json.Tree.required?_eq_some_iff Json.Tree.int64?_eq_some_iff (once key known)

private theorem optionalText_iff {text : Option String} :
    Json.Tree.withDefault? key none Json.Tree.optionalText? members = some text ↔
      HasOr key none SpellsOptionalText members text :=
  Json.Tree.withDefault?_eq_some_iff Json.Tree.optionalText?_eq_some_iff (once key known)

private theorem roles_iff {roles : List Role} :
    Json.Tree.withDefault? key [] (Json.Tree.list? Role.ofTree?) members = some roles ↔
      HasOr key [] (SpellsList Role.Spelled) members roles :=
  Json.Tree.withDefault?_eq_some_iff (Json.Tree.list?_eq_some_iff Role.ofTree?_eq_some_iff)
    (once key known)

end Once

theorem eachAtMostOnce_iff : Json.Tree.eachAtMostOnce keys members = true ↔
    ∀ key ∈ keys, Json.Tree.occurrences key members ≤ 1 := by
  simp only [Json.Tree.eachAtMostOnce, List.all_eq_true, decide_eq_true_eq]

theorem readFrom_iff_spelledBy : ReadFrom members claims ↔ SpelledBy members claims := by
  constructor
  · intro read
    have once := eachAtMostOnce_iff.mp read.once
    exact {
      once := once
      subject := (text_iff once (by decide)).mp read.subject
      issuer := (text_iff once (by decide)).mp read.issuer
      audience := (optionalText_iff once (by decide)).mp read.audience
      issuedAt := (int64_iff once (by decide)).mp read.issuedAt
      notBefore := (int64_iff once (by decide)).mp read.notBefore
      expires := (int64_iff once (by decide)).mp read.expires
      tokenId := (optionalText_iff once (by decide)).mp read.tokenId
      roles := (roles_iff once (by decide)).mp read.roles }
  · intro spelled
    have once := spelled.once
    exact {
      once := eachAtMostOnce_iff.mpr once
      subject := (text_iff once (by decide)).mpr spelled.subject
      issuer := (text_iff once (by decide)).mpr spelled.issuer
      audience := (optionalText_iff once (by decide)).mpr spelled.audience
      issuedAt := (int64_iff once (by decide)).mpr spelled.issuedAt
      notBefore := (int64_iff once (by decide)).mpr spelled.notBefore
      expires := (int64_iff once (by decide)).mpr spelled.expires
      tokenId := (optionalText_iff once (by decide)).mpr spelled.tokenId
      roles := (roles_iff once (by decide)).mpr spelled.roles }

theorem ofMembers?_eq_some_iff : ofMembers? members = some claims ↔ SpelledBy members claims := by
  rw [← readFrom_iff_spelledBy]
  refine ⟨readFrom_of_ofMembers?, fun read => ?_⟩
  simp [ofMembers?, read.once, read.subject, read.issuer, read.audience, read.issuedAt,
    read.notBefore, read.expires, read.tokenId, read.roles]

end Members

/-- An array is read as an object that has its items at the keys in order. -/
theorem ofItems?_eq_ofMembers? (items : List Json.Tree) :
    ofItems? items =
      if items.length ≤ keys.length then ofMembers? (keys.zip items) else none := by
  match items with
  | [] | [_] | [_, _] | [_, _, _] | [_, _, _, _] | [_, _, _, _, _] =>
      simp [ofItems?, ofMembers?, keys, Json.Tree.required?, Json.lookup?]
  | [_, _, _, _, _, _] | [_, _, _, _, _, _, _] | [_, _, _, _, _, _, _, _] =>
      simp [ofItems?, ofMembers?, keys, Json.Tree.required?, Json.Tree.withDefault?, Json.lookup?,
        Json.Tree.eachAtMostOnce, Json.Tree.occurrences, Option.bind_map]
  | _ :: _ :: _ :: _ :: _ :: _ :: _ :: _ :: _ :: _ =>
      rw [if_neg (by simp [keys])]
      simp [ofItems?, Option.bind_map]

theorem ofTree?_eq_some_iff {tree : Json.Tree} {claims : Claims} :
    ofTree? tree = some claims ↔ Spelled tree claims := by
  constructor
  · intro read
    cases tree with
    | object written =>
        obtain ⟨members, named, read⟩ := Option.bind_eq_some_iff.mp read
        exact .object named (ofMembers?_eq_some_iff.mp read)
    | array items =>
        rw [ofTree?, ofItems?_eq_ofMembers?] at read
        split at read
        · exact .array ‹_› (ofMembers?_eq_some_iff.mp read)
        · cases read
    | null => cases read
    | bool _ => cases read
    | numeral _ => cases read
    | string _ => cases read
  · rintro (⟨named, spelled⟩ | ⟨fits, spelled⟩)
    · rw [ofTree?, named, Option.bind_some, ofMembers?_eq_some_iff]
      exact spelled
    · rw [ofTree?, ofItems?_eq_ofMembers?, if_pos fits, ofMembers?_eq_some_iff]
      exact spelled

theorem decode?_eq_some_iff {text : Bytes} {claims : Claims} :
    decode? text = some claims ↔
      ∃ tree, Json.Tree.parse? text = some tree ∧ Spelled tree claims := by
  simp only [decode?, Option.bind_eq_some_iff, ofTree?_eq_some_iff]

/-! ### Writing -/

theorem octets_encode (claims : Claims) :
    Utf8.encode claims.encode = Utf8.encodeChars claims.toJson.render := by
  rw [encode, Json.compact, Utf8.encode, String.toList_ofList]

theorem decode?_encode (claims : Claims) : decode? (Utf8.encode claims.encode) = some claims := by
  obtain ⟨tree, parsed, read, _⟩ := parse?_render claims
  rw [octets_encode, decode?, parsed, Option.bind_some, read]

theorem encode_injective : Function.Injective encode := by
  intro claims others same
  have read := decode?_encode claims
  rw [same, decode?_encode others] at read
  exact (Option.some.inj read).symm

end Claims

namespace Json

theorem keys_of_memberShapes? {members : List (String × Json)} {written : List (Bytes × Tree)}
    (shaped : memberShapes? members = some written) :
    ∃ named, Tree.namedMembers? written = some named ∧
      named.map Prod.fst = members.map Prod.fst := by
  induction members generalizing written with
  | nil =>
      cases shaped
      exact ⟨[], rfl, rfl⟩
  | cons member rest ih =>
      obtain ⟨key, value⟩ := member
      rw [memberShapes?] at shaped
      obtain ⟨tree, _, shaped⟩ := Option.bind_eq_some_iff.mp shaped
      obtain ⟨more, shapedRest, rfl⟩ := Option.map_eq_some_iff.mp shaped
      obtain ⟨named, readRest, same⟩ := ih shapedRest
      refine ⟨(key, tree) :: named, ?_, by rw [List.map_cons, List.map_cons, same]⟩
      rw [Tree.namedMembers?, text?_bodyOf, readRest]

end Json

namespace Claims

theorem keys_encode (claims : Claims) :
    ∃ members, (Json.Tree.parse? (Utf8.encode claims.encode)).bind Json.Tree.members? =
        some members ∧ members.map Prod.fst = claims.toMembers.map Prod.fst := by
  obtain ⟨tree, parsed, _⟩ := parse?_render claims
  have shaped := parsed
  rw [Json.parse?_render, toJson, Json.shape?] at shaped
  obtain ⟨written, shapedMembers, rfl⟩ := Option.map_eq_some_iff.mp shaped
  rw [octets_encode, parsed]
  exact Json.keys_of_memberShapes? shapedMembers

theorem keys_toMembers (claims : Claims) :
    (claims.toMembers.map Prod.fst).Sublist keys ∧
      ("aud" ∈ claims.toMembers.map Prod.fst ↔ claims.audience ≠ none) ∧
      ("jti" ∈ claims.toMembers.map Prod.fst ↔ claims.tokenId ≠ none) := by
  obtain ⟨subject, issuer, audience, issuedAt, notBefore, expires, tokenId, roles⟩ := claims
  cases audience <;> cases tokenId <;> simp [toMembers, optionalMember, keys]

/-- The text that is written for the claims that a text is read as. -/
def canonical? (text : Bytes) : Option String := (decode? text).map encode

/-- What is written for claims is read as the same claims. It is an object that has the keys of
claims in order, without an audience or an identifier that claims do not have. Claims are read of
every text that spells them and of no other, and two texts that are read as claims have one
canonical text exactly if they are read as the same claims. -/
theorem encode_canonical (claims : Claims) :
    decode? (Utf8.encode claims.encode) = some claims ∧
    (∃ members, (Json.Tree.parse? (Utf8.encode claims.encode)).bind Json.Tree.members? =
        some members ∧
      (members.map Prod.fst).Sublist keys ∧
      ("aud" ∈ members.map Prod.fst ↔ claims.audience ≠ none) ∧
      ("jti" ∈ members.map Prod.fst ↔ claims.tokenId ≠ none)) ∧
    (∀ text, decode? text = some claims ↔
      ∃ tree, Json.Tree.parse? text = some tree ∧ Spelled tree claims) ∧
    ∀ text other others, decode? text = some claims → decode? other = some others →
      (canonical? text).bind (fun form => decode? (Utf8.encode form)) = some claims ∧
      (canonical? text = canonical? other ↔ claims = others) := by
  refine ⟨decode?_encode claims, ?_, fun text => decode?_eq_some_iff, ?_⟩
  · obtain ⟨members, parsed, same⟩ := keys_encode claims
    refine ⟨members, parsed, ?_⟩
    rw [same]
    exact keys_toMembers claims
  · intro text other others read readOther
    simp only [canonical?, read, readOther, Option.map_some, Option.bind_some, decode?_encode,
      Option.some.injEq, encode_injective.eq_iff, true_and]

/-- An array of the values of claims, with null for what is absent. -/
def arrayText : String := "[\"u\",\"i\",null,1,1,2,null,[\"ADMIN\"]]"

/-- The same claims as an object, in another order, with a member that is no claim, a member that is
null, another one missing, and a role that is written as a key with an escape. -/
def objectText : String :=
  "\x7b\"roles\":[\x7b\"ADM\\u0049N\":null\x7d],\"x\":[1e999],\"jti\":null,\"exp\":2," ++
    "\"nbf\":1,\"iat\":1,\"iss\":\"i\",\"sub\":\"u\"\x7d"

theorem encode_canonical_example :
    decode? (Utf8.encode arrayText) = some ⟨"u", "i", none, 1, 1, 2, none, [.admin]⟩ ∧
      decode? (Utf8.encode objectText) = some ⟨"u", "i", none, 1, 1, 2, none, [.admin]⟩ ∧
      canonical? (Utf8.encode arrayText) = canonical? (Utf8.encode objectText) := by
  have array : decode? (Utf8.encode arrayText) =
      some ⟨"u", "i", none, 1, 1, 2, none, [.admin]⟩ := by decide +kernel
  have object : decode? (Utf8.encode objectText) =
      some ⟨"u", "i", none, 1, 1, 2, none, [.admin]⟩ := by decide +kernel
  obtain ⟨_, _, _, alike⟩ := encode_canonical ⟨"u", "i", none, 1, 1, 2, none, [.admin]⟩
  exact ⟨array, object, (alike _ _ _ array object).2.mpr rfl⟩

end Claims

end Turnstile
