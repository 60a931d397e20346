import Turnstile.Proofs.Access.Decisions
set_option autoImplicit false

/-! What the embedded authorization policy comes to. It decides on which roles a credential grants and
on nothing else: their order and repetition, the subject and all other claims make no difference, and
who has more roles may do no less. -/

namespace Turnstile

namespace AccessRule

/-- What a rule asks of the roles that a credential grants. Credentials are only ever used on behalf
of their own subject, so any role will do where users may act on themselves. -/
def Asks : AccessRule → List Role → Prop
  | any, roles => roles ≠ []
  | adminOnly, roles => .admin ∈ roles
  | userOnly, roles => .user ∈ roles
  | adminOrSubject, roles => roles ≠ []

instance decidableAsks (rule : AccessRule) (roles : List Role) : Decidable (rule.Asks roles) :=
  match rule with
  | any => inferInstanceAs (Decidable (roles ≠ []))
  | adminOnly => inferInstanceAs (Decidable (.admin ∈ roles))
  | userOnly => inferInstanceAs (Decidable (.user ∈ roles))
  | adminOrSubject => inferInstanceAs (Decidable (roles ≠ []))

variable {rule : AccessRule} {roles more others : List Role}

theorem Asks.mono (asks : rule.Asks roles) (subset : roles ⊆ more) : rule.Asks more := by
  have filled : roles ≠ [] → more ≠ [] := by
    rintro nonempty rfl
    exact nonempty (List.subset_nil.mp subset)
  cases rule with
  | any => exact filled asks
  | adminOnly => exact subset asks
  | userOnly => exact subset asks
  | adminOrSubject => exact filled asks

theorem asks_congr (same : ∀ role, role ∈ roles ↔ role ∈ others) :
    rule.Asks roles ↔ rule.Asks others := by
  constructor
  · intro asks
    exact asks.mono fun role => (same role).mp
  · intro asks
    exact asks.mono fun role => (same role).mpr

theorem grants_iff_asks : rule.grants roles = true ↔ rule.Asks roles := by
  have filled : any.grants roles = true ↔ roles ≠ [] := by
    rw [grants_any, Bool.not_eq_true', List.isEmpty_eq_false_iff]
  cases rule with
  | any => exact filled
  | adminOnly => exact List.contains_iff_mem
  | userOnly => exact List.contains_iff_mem
  | adminOrSubject => exact filled

end AccessRule

namespace Policy.Engine

/-- While the caller waits, the policy allows just what the roles satisfy. -/
theorem evaluateAuthorization_of_live {context : Context} (live : context.Live) (rule : AccessRule)
    (roles : List Role) (subject : String) :
    embedded.evaluateAuthorization context rule roles subject = .ok (decide (rule.Asks roles)) := by
  obtain ⟨before, after⟩ := live
  have granted : rule.grants roles = decide (rule.Asks roles) := by
    rw [Bool.eq_iff_iff, decide_eq_true_iff, AccessRule.grants_iff_asks]
  rw [evaluateAuthorization_embedded, before, after, granted]
  rfl

/-- In no circumstances do the subject or the order and the repetition of roles matter. -/
theorem evaluateAuthorization_congr (context : Context) (rule : AccessRule)
    {roles others : List Role} (same : ∀ role, role ∈ roles ↔ role ∈ others)
    (subject otherSubject : String) :
    embedded.evaluateAuthorization context rule roles subject =
      embedded.evaluateAuthorization context rule others otherSubject := by
  have granted : rule.grants roles = rule.grants others := by
    rw [Bool.eq_iff_iff, AccessRule.grants_iff_asks, AccessRule.grants_iff_asks,
      AccessRule.asks_congr same]
  simp only [evaluateAuthorization_embedded, granted]

/-- The engine over the embedded policies can be built. While the caller waits it always decides, and
it allows just what the roles satisfy; to administrators and subjects it allows what it allows to any
role. Which roles there are is all that a decision depends on, and more roles never allow less. -/
theorem evaluateAuthorization_by_roles (wallSeconds : Int) :
    ∃ engine, ofSources wallSeconds none none = .ok engine ∧
      (∀ context rule roles subject, context.Live →
        engine.evaluateAuthorization context rule roles subject = .ok (decide (rule.Asks roles))) ∧
      (∀ context roles subject,
        engine.evaluateAuthorization context .adminOrSubject roles subject =
          engine.evaluateAuthorization context .any roles subject) ∧
      (∀ validator context claims otherClaims rule,
        (∀ role, role ∈ claims.roles ↔ role ∈ otherClaims.roles) →
          (AccessControl.mk validator engine).authorize context claims rule =
            (AccessControl.mk validator engine).authorize context otherClaims rule) ∧
      ∀ context rule roles more subject otherSubject, roles ⊆ more →
        engine.evaluateAuthorization context rule roles subject = .ok true →
          engine.evaluateAuthorization context rule more otherSubject = .ok true := by
  refine ⟨embedded, ofSources_none wallSeconds, ?decided, ?alike, ?unread, ?monotone⟩
  case decided =>
    intro context rule roles subject live
    exact evaluateAuthorization_of_live live rule roles subject
  case alike =>
    intro context roles subject
    have granted : AccessRule.adminOrSubject.grants roles = AccessRule.any.grants roles := rfl
    simp only [evaluateAuthorization_embedded, granted]
  case unread =>
    intro validator context claims otherClaims rule same
    simp only [AccessControl.authorize,
      evaluateAuthorization_congr context rule same claims.subject otherClaims.subject]
  case monotone =>
    intro context rule roles more subject otherSubject subset allowed
    rw [evaluateAuthorization_eq_true_iff, AccessRule.grants_iff_asks] at allowed ⊢
    exact ⟨allowed.1, allowed.2.mono subset⟩

end Policy.Engine

end Turnstile
