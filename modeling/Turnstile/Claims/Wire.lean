import Turnstile.Claims
import Turnstile.Json.Printer
import Turnstile.Json.Record
set_option autoImplicit false

/-! Claims as JSON. They are written as an object with members in a fixed order,
and with no member for what is absent. They are read from such an object, with
members in any order, or from an array of their values in that order. -/

namespace Turnstile

namespace Role

/-- Read a role: its name, or an object with its name for a key and null. -/
def ofTree? : Json.Tree → Option Role
  | .string body => (Json.text? body).bind ofName?
  | .object [(key, .null)] => (Json.text? key).bind ofName?
  | _ => none

end Role

namespace Claims

def keys : List String := ["sub", "iss", "aud", "iat", "nbf", "exp", "jti", "roles"]

def optionalMember (key : String) : Option String → List (String × Json)
  | some value => [(key, .string value)]
  | none => []

def toMembers (claims : Claims) : List (String × Json) :=
  [("sub", .string claims.subject), ("iss", .string claims.issuer)] ++
    optionalMember "aud" claims.audience ++
    [("iat", .number (.int claims.issuedAt.toInt)),
      ("nbf", .number (.int claims.notBefore.toInt)),
      ("exp", .number (.int claims.expires.toInt))] ++
    optionalMember "jti" claims.tokenId ++
    [("roles", .array (claims.roles.map fun role => .string role.name))]

def toJson (claims : Claims) : Json := .object claims.toMembers

def encode (claims : Claims) : String := claims.toJson.compact

def ofMembers? (members : List (String × Json.Tree)) : Option Claims := do
  if !Json.Tree.eachAtMostOnce keys members then none
  let subject ← Json.Tree.required? "sub" Json.Tree.text? members
  let issuer ← Json.Tree.required? "iss" Json.Tree.text? members
  let audience ← Json.Tree.withDefault? "aud" none Json.Tree.optionalText? members
  let issuedAt ← Json.Tree.required? "iat" Json.Tree.int64? members
  let notBefore ← Json.Tree.required? "nbf" Json.Tree.int64? members
  let expires ← Json.Tree.required? "exp" Json.Tree.int64? members
  let tokenId ← Json.Tree.withDefault? "jti" none Json.Tree.optionalText? members
  let roles ← Json.Tree.withDefault? "roles" [] (Json.Tree.list? Role.ofTree?) members
  return ⟨subject, issuer, audience, issuedAt, notBefore, expires, tokenId, roles⟩

def ofItems? : List Json.Tree → Option Claims
  | subject :: issuer :: audience :: issuedAt :: notBefore :: expires :: more => do
      let subject ← subject.text?
      let issuer ← issuer.text?
      let audience ← audience.optionalText?
      let issuedAt ← issuedAt.int64?
      let notBefore ← notBefore.int64?
      let expires ← expires.int64?
      let (tokenId, more) ← match more with
        | [] => some (none, [])
        | tokenId :: more => (tokenId.optionalText?).map fun tokenId => (tokenId, more)
      let roles ← match more with
        | [] => some []
        | [roles] => roles.list? Role.ofTree?
        | _ => none
      return ⟨subject, issuer, audience, issuedAt, notBefore, expires, tokenId, roles⟩
  | _ => none

def ofTree? : Json.Tree → Option Claims
  | .object members => (Json.Tree.namedMembers? members).bind ofMembers?
  | .array items => ofItems? items
  | _ => none

def decode? (text : Bytes) : Option Claims := (Json.Tree.parse? text).bind ofTree?

end Claims

end Turnstile
