import Turnstile.Proofs.Claims.Handover
import Turnstile.Proofs.Json.Members
set_option autoImplicit false

/-! Claims in built payloads. Where claims are read of the members of an object and the same object
is built as a value, the value holds these claims and no others: what stands at a key of claims does
not depend on the way of reading. -/

namespace Turnstile

/-! ### Roles -/

namespace Role

/-- Read a role of a value as it is read of a tree. -/
def ofJson? : Json → Option Role
  | .string name => ofName? name
  | .object [(name, .null)] => ofName? name
  | _ => none

theorem build?_of_ofTree? {tree : Json.Tree} {role : Role} (read : ofTree? tree = some role)
    (depth : Nat) : ∃ value, tree.build? (depth + 1) = some value ∧ ofJson? value = some role := by
  unfold ofTree? at read
  split at read
  · rename_i body
    obtain ⟨name, text, named⟩ := Option.bind_eq_some_iff.mp read
    exact ⟨.string name, by rw [Json.Tree.build?, text]; rfl, named⟩
  · rename_i key
    obtain ⟨name, text, named⟩ := Option.bind_eq_some_iff.mp read
    refine ⟨.object [(name, .null)], ?_, named⟩
    rw [Json.Tree.build?, Json.buildMembers?, Json.buildMembers?, Json.Tree.build?, text]
    rfl
  · cases read

theorem buildItems?_of_each? {items : List Json.Tree} {roles : List Role}
    (read : Json.Tree.each? ofTree? items = some roles) (depth : Nat) :
    ∃ values, Json.buildItems? (depth + 1) items = some values ∧
      values.mapM ofJson? = some roles := by
  induction items generalizing roles with
  | nil =>
      cases read
      exact ⟨[], rfl, rfl⟩
  | cons item rest ih =>
      rw [Json.Tree.each?] at read
      split at read
      · rename_i role others readRole readRest
        cases read
        obtain ⟨value, built, same⟩ := build?_of_ofTree? readRole depth
        obtain ⟨values, builtRest, sameRest⟩ := ih readRest
        refine ⟨value :: values, by rw [Json.buildItems?, built, builtRest], ?_⟩
        rw [List.mapM_cons, same, sameRest]
        rfl
      · cases read

theorem build?_of_list? {tree : Json.Tree} {roles : List Role}
    (read : tree.list? ofTree? = some roles) (depth : Nat) :
    ∃ values, tree.build? (depth + 2) = some (.array values) ∧
      values.mapM ofJson? = some roles := by
  cases tree with
  | array items =>
      obtain ⟨values, built, same⟩ := buildItems?_of_each? read depth
      exact ⟨values, by rw [Json.Tree.build?, built]; rfl, same⟩
  | null => cases read
  | bool _ => cases read
  | numeral _ => cases read
  | string _ => cases read
  | object _ => cases read

end Role

namespace Claims

/-! ### Payloads -/

/-- A text stands at a key, or if there is none, null or nothing does. -/
def OptionalAt (key : String) (payload : List (String × Json)) : Option String → Prop
  | some text => Json.lookup? key payload = some (.string text)
  | none => Json.lookup? key payload = none ∨ Json.lookup? key payload = some .null

/-- The roles of a payload; a payload without this member has none. -/
def rolesOf? (payload : List (String × Json)) : Option (List Role) :=
  match Json.lookup? "roles" payload with
  | none => some []
  | some (.array values) => values.mapM Role.ofJson?
  | some _ => none

/-- Claims are what a payload says. -/
structure SaidIn (payload : List (String × Json)) (claims : Claims) : Prop where
  subject : Json.lookup? "sub" payload = some (.string claims.subject)
  issuer : Json.lookup? "iss" payload = some (.string claims.issuer)
  audience : OptionalAt "aud" payload claims.audience
  issuedAt : Json.lookup? "iat" payload = some (.number (.int claims.issuedAt.toInt))
  notBefore : Json.lookup? "nbf" payload = some (.number (.int claims.notBefore.toInt))
  expires : Json.lookup? "exp" payload = some (.number (.int claims.expires.toInt))
  tokenId : OptionalAt "jti" payload claims.tokenId
  roles : rolesOf? payload = some claims.roles

section Built

variable {written : List (Bytes × Json.Tree)} {members : List (String × Json.Tree)}
  {claims : Claims} {depth : Nat}

theorem saidIn_of_build? {payload : List (String × Json)}
    (named : Json.Tree.namedMembers? written = some members) (read : ReadFrom members claims)
    (built : ((Json.Tree.object written).build? (depth + 3)).bind Json.object? = some payload) :
    SaidIn payload claims := by
  have found : ∀ key ∈ keys, Json.lookup? key payload =
      (Json.lookup? key members).bind (Json.Tree.build? (depth + 2)) := by
    intro key known
    apply Json.lookup?_of_build? named built
    exact of_decide_eq_true (List.all_eq_true.mp read.once key known)
  have required : ∀ {Value : Type} {reader : Json.Tree → Option Value} {key : String}
      {value : Value} {json : Json}, key ∈ keys →
      Json.Tree.required? key reader members = some value →
      (∀ tree, reader tree = some value → tree.build? (depth + 2) = some json) →
      Json.lookup? key payload = some json := by
    intro Value reader key value json known isThere builds
    obtain ⟨tree, lookedUp, readTree⟩ := Option.bind_eq_some_iff.mp isThere
    rw [found key known, lookedUp, Option.bind_some, builds tree readTree]
  have optional : ∀ {key : String} {text : Option String}, key ∈ keys →
      Json.Tree.withDefault? key none Json.Tree.optionalText? members = some text →
      OptionalAt key payload text := by
    intro key text known isThere
    have lookup := found key known
    rw [Json.Tree.withDefault?] at isThere
    split at isThere
    · rename_i tree lookedUp
      rw [lookedUp, Option.bind_some, Json.Tree.build?_of_optionalText? isThere] at lookup
      cases text with
      | none => exact Or.inr lookup
      | some text => exact lookup
    · rename_i lookedUp
      cases isThere
      rw [lookedUp] at lookup
      exact Or.inl lookup
  exact {
    subject := required (by decide) read.subject fun _ text => Json.Tree.build?_of_text? text _
    issuer := required (by decide) read.issuer fun _ text => Json.Tree.build?_of_text? text _
    audience := optional (by decide) read.audience
    issuedAt := required (by decide) read.issuedAt fun _ whole => Json.Tree.build?_of_int64? whole _
    notBefore :=
      required (by decide) read.notBefore fun _ whole => Json.Tree.build?_of_int64? whole _
    expires := required (by decide) read.expires fun _ whole => Json.Tree.build?_of_int64? whole _
    tokenId := optional (by decide) read.tokenId
    roles := by
      have roles := read.roles
      have lookup := found "roles" (by decide)
      rw [Json.Tree.withDefault?] at roles
      split at roles
      · rename_i tree lookedUp
        obtain ⟨values, builds, same⟩ := Role.build?_of_list? roles depth
        rw [lookedUp, Option.bind_some, builds] at lookup
        rw [rolesOf?, lookup]
        exact same
      · rename_i lookedUp
        rw [lookedUp] at lookup
        rw [rolesOf?, lookup]
        exact roles }

theorem isSome_build?_of_member (typed : TypedMembers members) {key : String} {tree : Json.Tree}
    (known : key ∈ keys) (member : (key, tree) ∈ members) :
    (tree.build? (depth + 2)).isSome = true := by
  rcases typed_of_member typed known member with text | optional | whole | roles
  · obtain ⟨text, read⟩ := Option.isSome_iff_exists.mp text
    rw [Json.Tree.build?_of_text? read]
    rfl
  · obtain ⟨text, read⟩ := Option.isSome_iff_exists.mp optional
    rw [Json.Tree.build?_of_optionalText? read]
    rfl
  · obtain ⟨value, read⟩ := Option.isSome_iff_exists.mp whole
    rw [Json.Tree.build?_of_int64? read]
    rfl
  · obtain ⟨roles, read⟩ := Option.isSome_iff_exists.mp roles
    obtain ⟨values, built, _⟩ := Role.build?_of_list? read depth
    rw [built]
    rfl

/-- A payload with no members but claims is built. -/
theorem exists_build?_of_known (named : Json.Tree.namedMembers? written = some members)
    (typed : TypedMembers members) (known : ∀ member ∈ members, member.1 ∈ keys) :
    ∃ payload,
      ((Json.Tree.object written).build? (depth + 3)).bind Json.object? = some payload :=
  Json.exists_build? named fun member inside =>
    isSome_build?_of_member typed (known member inside) inside

end Built

end Claims

end Turnstile
