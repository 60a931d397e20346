import Turnstile.Claims.Wire
import Turnstile.Jws.Verify
import Turnstile.Proofs.Json.Shape
set_option autoImplicit false

/-! Claims on the wire. Whatever claims say, their text is read back as the same claims, and as a
payload in which the claims of the standard are readable. -/

namespace Turnstile

open Json (bodyOf)

namespace Json

def written (members : List (String × Tree)) : List (Bytes × Tree) :=
  members.map fun (key, tree) => (bodyOf key, tree)

theorem namedMembers?_written (members : List (String × Tree)) :
    Tree.namedMembers? (written members) = some members := by
  induction members with
  | nil => rfl
  | cons member rest ih =>
      obtain ⟨key, tree⟩ := member
      rw [written, List.map_cons, Tree.namedMembers?, text?_bodyOf]
      rw [written] at ih
      rw [ih]

end Json

namespace Role

theorem each?_names (roles : List Role) :
    Json.Tree.each? ofTree? (roles.map fun role => .string (bodyOf role.name)) = some roles := by
  induction roles with
  | nil => rfl
  | cons role rest ih =>
      rw [List.map_cons, Json.Tree.each?, ih, ofTree?, Json.text?_bodyOf, Option.bind_some,
        ofName?_name]

theorem itemShapes?_names (roles : List Role) :
    Json.itemShapes? (roles.map fun role => .string role.name) =
      some (roles.map fun role => .string (bodyOf role.name)) := by
  induction roles with
  | nil => rfl
  | cons role rest ih =>
      rw [List.map_cons, Json.itemShapes?, ih]
      rfl

end Role

namespace Claims

private def optionalTree (key : String) : Option String → List (String × Json.Tree)
  | some value => [(key, .string (bodyOf value))]
  | none => []

private def trees (claims : Claims) : List (String × Json.Tree) :=
  [("sub", .string (bodyOf claims.subject)), ("iss", .string (bodyOf claims.issuer))] ++
    optionalTree "aud" claims.audience ++
    [("iat", .numeral (.ofInt claims.issuedAt.toInt)),
      ("nbf", .numeral (.ofInt claims.notBefore.toInt)),
      ("exp", .numeral (.ofInt claims.expires.toInt))] ++
    optionalTree "jti" claims.tokenId ++
    [("roles", .array (claims.roles.map fun role => .string (bodyOf role.name)))]

private theorem shape?_toJson (claims : Claims) :
    claims.toJson.shape? = some (.object (Json.written claims.trees)) := by
  obtain ⟨subject, issuer, audience, issuedAt, notBefore, expires, tokenId, roles⟩ := claims
  cases audience <;> cases tokenId <;>
    simp [toJson, toMembers, optionalMember, Json.shape?, Json.memberShapes?,
      Json.renderNumber, Numeral.read?_renderInt, Role.itemShapes?_names, trees, optionalTree,
      Json.written]

private theorem ofMembers?_trees (claims : Claims) : ofMembers? claims.trees = some claims := by
  obtain ⟨subject, issuer, audience, issuedAt, notBefore, expires, tokenId, roles⟩ := claims
  cases audience <;> cases tokenId <;>
    simp [ofMembers?, trees, optionalTree, keys, Json.Tree.eachAtMostOnce, Json.Tree.occurrences,
      Json.Tree.required?, Json.Tree.withDefault?, Json.lookup?, Json.Tree.text?_shape,
      Json.Tree.optionalText?, Json.text?_bodyOf, Json.Tree.int64?_shape, Json.Tree.list?,
      Role.each?_names]

private theorem readable_trees (claims : Claims) :
    Json.Tree.eachAtMostOnce Jws.registeredKeys claims.trees = true ∧
      Jws.hasPlainSubject claims.trees = true := by
  obtain ⟨subject, issuer, audience, issuedAt, notBefore, expires, tokenId, roles⟩ := claims
  cases audience <;> cases tokenId <;>
    simp [trees, optionalTree, Json.Tree.eachAtMostOnce, Json.Tree.occurrences,
      Jws.registeredKeys, Jws.hasPlainSubject]

private theorem keys_trees (claims : Claims) : ∀ member ∈ claims.trees, member.1 ∈ keys := by
  obtain ⟨subject, issuer, audience, issuedAt, notBefore, expires, tokenId, roles⟩ := claims
  cases audience <;> cases tokenId <;> simp [trees, optionalTree, keys]

theorem members?_render (claims : Claims) :
    ∃ members, (Json.Tree.parse? (Utf8.encodeChars claims.toJson.render)).bind
        Json.Tree.members? = some members ∧ ∀ member ∈ members, member.1 ∈ keys := by
  refine ⟨claims.trees, ?_, keys_trees claims⟩
  rw [Json.parse?_render, shape?_toJson, Option.bind_some, Json.Tree.members?,
    Json.namedMembers?_written]

theorem parse?_render (claims : Claims) :
    ∃ tree, Json.Tree.parse? (Utf8.encodeChars claims.toJson.render) = some tree ∧
      ofTree? tree = some claims ∧ Jws.hasReadableClaims tree = true := by
  refine ⟨.object (Json.written claims.trees), ?_, ?_, ?_⟩
  · rw [Json.parse?_render, shape?_toJson]
  · rw [ofTree?, Json.namedMembers?_written, Option.bind_some, ofMembers?_trees]
  · obtain ⟨once, plain⟩ := readable_trees claims
    rw [Jws.hasReadableClaims, Json.namedMembers?_written]
    simp only [Option.any_some, once, plain, Bool.and_self]

end Claims

end Turnstile
