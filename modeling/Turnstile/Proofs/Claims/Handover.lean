import Turnstile.Claims.Wire
import Turnstile.Proofs.Json.Handover
set_option autoImplicit false

/-! Claims that are handed on. Every member that claims are read from makes a plain value. -/

namespace Turnstile

namespace Role

theorem plain_of_ofTree? {tree : Json.Tree} {depth : Nat} {value : Json}
    (role : (ofTree? tree).isSome = true) (built : tree.build? (depth + 1) = some value) :
    value.Plain 1 := by
  unfold ofTree? at role
  split at role
  · rename_i body
    exact (Json.Tree.plain_of_text? (by
      cases text : Json.text? body with
      | none =>
          rw [text] at role
          cases role
      | some _ => rw [Json.Tree.text?, text]; rfl) built).mono (Nat.zero_le _)
  · rename_i key
    rw [Json.Tree.build?, Json.buildMembers?, Json.buildMembers?, Json.Tree.build?] at built
    cases text : Json.text? key with
    | none =>
        rw [text] at role
        cases role
    | some name =>
        rw [text] at built role
        cases built
        have unmarked : name ≠ Policy.Value.numeralKey := by
          intro same
          subst same
          cases role
        apply Json.plain_object
        · intro member inside
          rw [List.mem_singleton.mp inside]
          exact unmarked
        · intro member inside
          rw [List.mem_singleton.mp inside]
          exact Json.plain_null
  · cases role

theorem plain_of_list? {tree : Json.Tree} {depth : Nat} {value : Json}
    (roles : (tree.list? ofTree?).isSome = true) (built : tree.build? (depth + 2) = some value) :
    value.Plain 2 := by
  cases tree with
  | array items =>
      rw [Json.Tree.build?, Option.map_eq_some_iff] at built
      obtain ⟨values, builtItems, rfl⟩ := built
      apply Json.plain_array
      rw [Json.Tree.list?] at roles
      induction items generalizing values with
      | nil =>
          cases builtItems
          intro item member
          cases member
      | cons item rest ih =>
          rw [Json.Tree.each?] at roles
          rw [Json.buildItems?] at builtItems
          split at builtItems
          · rename_i first others builtFirst builtRest
            cases builtItems
            split at roles
            · rename_i role more readFirst readRest
              intro other member
              rcases List.mem_cons.mp member with rfl | later
              · exact plain_of_ofTree? (by rw [readFirst]; rfl) builtFirst
              · exact ih (by rw [readRest]; rfl) others builtRest other later
            · cases roles
          · cases builtItems
  | null => cases roles
  | bool _ => cases roles
  | numeral _ => cases roles
  | string _ => cases roles
  | object _ => cases roles

end Role

namespace Claims

/-- What the members are that claims are read from. -/
structure TypedMembers (members : List (String × Json.Tree)) : Prop where
  once : Json.Tree.eachAtMostOnce keys members = true
  subject : (Json.Tree.required? "sub" Json.Tree.text? members).isSome = true
  issuer : (Json.Tree.required? "iss" Json.Tree.text? members).isSome = true
  audience : (Json.Tree.withDefault? "aud" none Json.Tree.optionalText? members).isSome = true
  issuedAt : (Json.Tree.required? "iat" Json.Tree.int64? members).isSome = true
  notBefore : (Json.Tree.required? "nbf" Json.Tree.int64? members).isSome = true
  expires : (Json.Tree.required? "exp" Json.Tree.int64? members).isSome = true
  tokenId : (Json.Tree.withDefault? "jti" none Json.Tree.optionalText? members).isSome = true
  roles : (Json.Tree.withDefault? "roles" [] (Json.Tree.list? Role.ofTree?) members).isSome = true

/-- Claims are what their members say. -/
structure ReadFrom (members : List (String × Json.Tree)) (claims : Claims) : Prop where
  once : Json.Tree.eachAtMostOnce keys members = true
  subject : Json.Tree.required? "sub" Json.Tree.text? members = some claims.subject
  issuer : Json.Tree.required? "iss" Json.Tree.text? members = some claims.issuer
  audience :
    Json.Tree.withDefault? "aud" none Json.Tree.optionalText? members = some claims.audience
  issuedAt : Json.Tree.required? "iat" Json.Tree.int64? members = some claims.issuedAt
  notBefore : Json.Tree.required? "nbf" Json.Tree.int64? members = some claims.notBefore
  expires : Json.Tree.required? "exp" Json.Tree.int64? members = some claims.expires
  tokenId :
    Json.Tree.withDefault? "jti" none Json.Tree.optionalText? members = some claims.tokenId
  roles :
    Json.Tree.withDefault? "roles" [] (Json.Tree.list? Role.ofTree?) members = some claims.roles

theorem readFrom_of_ofMembers? {members : List (String × Json.Tree)} {claims : Claims}
    (read : ofMembers? members = some claims) : ReadFrom members claims := by
  unfold ofMembers? at read
  obtain ⟨once, read⟩ : Json.Tree.eachAtMostOnce keys members = true ∧ _ := by
    simpa using read
  obtain ⟨subject, subjectRead, read⟩ := Option.bind_eq_some_iff.mp read
  obtain ⟨issuer, issuerRead, read⟩ := Option.bind_eq_some_iff.mp read
  obtain ⟨audience, audienceRead, read⟩ := Option.bind_eq_some_iff.mp read
  obtain ⟨issuedAt, issuedAtRead, read⟩ := Option.bind_eq_some_iff.mp read
  obtain ⟨notBefore, notBeforeRead, read⟩ := Option.bind_eq_some_iff.mp read
  obtain ⟨expires, expiresRead, read⟩ := Option.bind_eq_some_iff.mp read
  obtain ⟨tokenId, tokenIdRead, read⟩ := Option.bind_eq_some_iff.mp read
  obtain ⟨roles, rolesRead, same⟩ := Option.bind_eq_some_iff.mp read
  cases same
  exact {
    once := once
    subject := subjectRead
    issuer := issuerRead
    audience := audienceRead
    issuedAt := issuedAtRead
    notBefore := notBeforeRead
    expires := expiresRead
    tokenId := tokenIdRead
    roles := rolesRead }

theorem ReadFrom.typed {members : List (String × Json.Tree)} {claims : Claims}
    (reads : ReadFrom members claims) : TypedMembers members where
  once := reads.once
  subject := Option.isSome_of_eq_some reads.subject
  issuer := Option.isSome_of_eq_some reads.issuer
  audience := Option.isSome_of_eq_some reads.audience
  issuedAt := Option.isSome_of_eq_some reads.issuedAt
  notBefore := Option.isSome_of_eq_some reads.notBefore
  expires := Option.isSome_of_eq_some reads.expires
  tokenId := Option.isSome_of_eq_some reads.tokenId
  roles := Option.isSome_of_eq_some reads.roles

/-- At a key of claims stands a text, one that may be null, a whole number or a list of roles. -/
theorem typed_of_member {members : List (String × Json.Tree)} (typed : TypedMembers members)
    {key : String} {tree : Json.Tree} (known : key ∈ keys) (member : (key, tree) ∈ members) :
    tree.text?.isSome = true ∨ tree.optionalText?.isSome = true ∨ tree.int64?.isSome = true ∨
      (tree.list? Role.ofTree?).isSome = true := by
  have found : Json.lookup? key members = some tree :=
    Json.Tree.lookup?_of_mem member
      (of_decide_eq_true (List.all_eq_true.mp typed.once key known))
  have required : ∀ {Value : Type} (read : Json.Tree → Option Value),
      (Json.Tree.required? key read members).isSome = true → (read tree).isSome = true := by
    intro Value read isThere
    rw [Json.Tree.required?, found] at isThere
    exact isThere
  have withDefault : ∀ {Value : Type} (default : Value) (read : Json.Tree → Option Value),
      (Json.Tree.withDefault? key default read members).isSome = true →
        (read tree).isSome = true := by
    intro Value default read isThere
    rw [Json.Tree.withDefault?, found] at isThere
    exact isThere
  simp only [keys, List.mem_cons, List.not_mem_nil, or_false] at known
  rcases known with rfl | rfl | rfl | rfl | rfl | rfl | rfl | rfl
  · exact Or.inl (required _ typed.subject)
  · exact Or.inl (required _ typed.issuer)
  · exact Or.inr (Or.inl (withDefault _ _ typed.audience))
  · exact Or.inr (Or.inr (Or.inl (required _ typed.issuedAt)))
  · exact Or.inr (Or.inr (Or.inl (required _ typed.notBefore)))
  · exact Or.inr (Or.inr (Or.inl (required _ typed.expires)))
  · exact Or.inr (Or.inl (withDefault _ _ typed.tokenId))
  · exact Or.inr (Or.inr (Or.inr (withDefault _ _ typed.roles)))

theorem unmarked_of_known {key : String} (known : key ∈ keys) : key ≠ Policy.Value.numeralKey := by
  intro same
  subst same
  exact absurd known (by decide)

theorem plain_of_member {members : List (String × Json.Tree)} (typed : TypedMembers members)
    {key : String} {tree : Json.Tree} (known : key ∈ keys) (member : (key, tree) ∈ members)
    {depth : Nat} {value : Json} (built : tree.build? (depth + 2) = some value) :
    value.Plain 2 := by
  rcases typed_of_member typed known member with text | optional | whole | roles
  · exact (Json.Tree.plain_of_text? text built).mono (by decide)
  · exact (Json.Tree.plain_of_optionalText? optional built).mono (by decide)
  · exact (Json.Tree.plain_of_int64? whole built).mono (by decide)
  · exact Role.plain_of_list? roles built

end Claims

end Turnstile
