import Turnstile.Http.Routes
import Turnstile.Proofs.Access.Decisions
set_option autoImplicit false

/-! Who sees the two guarded routes. Both come down to one chain of decisions: the token in the
headers, then the credential, then the rule of the route. -/

namespace Turnstile

theorem AccessError.status_ne_ok (error : AccessError) : error.status ≠ 200 := by
  cases error <;> simp [status]

namespace Http

/-- The claims of the bearer of headers, if the credential there is accepted and a rule allows
them. -/
def admission (access : AccessControl) (moment : Moment) (rule : AccessRule) (headers : Headers) :
    Except AccessError Claims := do
  let token ← bearerToken headers
  let claims ← access.authenticate moment.authentication moment.now token
  access.authorize moment.authorization claims rule
  return claims

theorem admission_eq_ok_iff (access : AccessControl) (moment : Moment) (rule : AccessRule)
    (headers : Headers) (claims : Claims) :
    admission access moment rule headers = .ok claims ↔
      ∃ token, bearerToken headers = .ok token ∧
        access.authenticate moment.authentication moment.now token = .ok claims ∧
        access.authorize moment.authorization claims rule = .ok () := by
  simp only [admission, bind, Except.bind, pure, Except.pure]
  cases bearerToken headers with
  | error error => simp
  | ok token =>
      simp only [Except.ok.injEq, exists_eq_left']
      cases access.authenticate moment.authentication moment.now token with
      | error error => simp
      | ok found =>
          simp only [Except.ok.injEq]
          cases authorized : access.authorize moment.authorization found rule with
          | error error =>
              constructor
              · intro same
                cases same
              · rintro ⟨rfl, allowed⟩
                rw [authorized] at allowed
                cases allowed
          | ok _ =>
              constructor
              · intro same
                cases same
                exact ⟨rfl, authorized⟩
              · rintro ⟨rfl, _⟩
                rfl

/-- A request for a page, as it comes in. -/
def getRequest (path : String) (headers : Headers) : Request :=
  { method := .get, path := path, headers := headers }

theorem answer_restricted (service : Service) (moment : Moment) (headers : Headers) :
    (answer service moment (getRequest "/v1/test/auth" headers)).1 =
      match admission service.access moment .adminOnly headers with
      | .error error => .refusal error
      | .ok _ => .ok statusBody := by
  have route : Route.ofPath? "/v1/test/auth" = some .restricted := by
    decide
  simp only [answer, route, getRequest, Route.answer, Route.byMethod, Route.fetch, authorizeBearer,
    authenticateBearer, admission, bind, Except.bind, pure, Except.pure]
  cases bearerToken headers with
  | error error => rfl
  | ok token =>
      simp only [Service.authenticate]
      cases service.access.authenticate moment.authentication moment.now token with
      | error error => rfl
      | ok claims =>
          simp only [Service.authorize, Service.record]
          cases service.access.authorize moment.authorization claims .adminOnly with
          | error error => rfl
          | ok _ => rfl

theorem answer_self (service : Service) (moment : Moment) (headers : Headers) :
    (answer service moment (getRequest "/v1/me" headers)).1 =
      match admission service.access moment .any headers with
      | .error error => .refusal error
      | .ok claims => .ok claims.toJson := by
  have route : Route.ofPath? "/v1/me" = some .self := by
    decide
  simp only [answer, route, getRequest, Route.answer, withBearer, Route.byMethod, Route.fetch,
    authorizeBearer, authenticateBearer, admission, bind, Except.bind, pure, Except.pure]
  cases bearerToken headers with
  | error error => rfl
  | ok token =>
      simp only [Service.authenticate]
      cases service.access.authenticate moment.authentication moment.now token with
      | error error => rfl
      | ok claims =>
          simp only [Service.authorize, Service.record]
          cases service.access.authorize moment.authorization claims .any with
          | error error => rfl
          | ok _ => rfl

theorem respond_status (service : Service) (moment : Moment) (freshId path : String)
    (headers : Headers) :
    (respond service moment freshId (getRequest path headers)).1.status =
      (answer service moment (getRequest path headers)).1.status := by
  rfl

theorem respond_body (service : Service) (moment : Moment) (freshId path : String)
    (headers : Headers) :
    (respond service moment freshId (getRequest path headers)).1.body =
      (answer service moment (getRequest path headers)).1.body := by
  rfl

/-- The headers carry a credential that is accepted, with these claims. -/
def Bears (access : AccessControl) (moment : Moment) (headers : Headers) (claims : Claims) : Prop :=
  ∃ token, bearerToken headers = .ok token ∧
    access.authenticate moment.authentication moment.now token = .ok claims

theorem Bears.unique {access : AccessControl} {moment : Moment} {headers : Headers}
    {claims others : Claims} (bears : Bears access moment headers claims)
    (bearsOthers : Bears access moment headers others) : claims = others := by
  obtain ⟨token, found, accepted⟩ := bears
  obtain ⟨other, foundOther, acceptedOther⟩ := bearsOthers
  rw [found] at foundOther
  cases foundOther
  rw [accepted] at acceptedOther
  exact Except.ok.inj acceptedOther

/-- Under the embedded policies a request passes a rule exactly if the credential that it
carries is accepted, its roles satisfy the rule and the caller waits for both decisions. -/
theorem admission_embedded_iff (validator : Validator) (moment : Moment) (rule : AccessRule)
    (headers : Headers) (claims : Claims) :
    admission ⟨validator, .embedded⟩ moment rule headers = .ok claims ↔
      (moment.authentication.Live ∧ moment.authorization.Live) ∧
        Bears ⟨validator, .embedded⟩ moment headers claims ∧ rule.grants claims.roles = true := by
  rw [admission_eq_ok_iff]
  constructor
  · rintro ⟨token, found, accepted, allowed⟩
    rw [AccessControl.authorize_eq_ok_iff, Policy.Engine.evaluateAuthorization_eq_true_iff]
      at allowed
    exact ⟨⟨AccessControl.live_of_authenticate accepted, allowed.1⟩, ⟨token, found, accepted⟩,
      allowed.2⟩
  · rintro ⟨⟨_, waits⟩, ⟨token, found, accepted⟩, granted⟩
    refine ⟨token, found, accepted, ?_⟩
    rw [AccessControl.authorize_eq_ok_iff, Policy.Engine.evaluateAuthorization_eq_true_iff]
    exact ⟨waits, granted⟩

/-- Nobody but the bearer of an accepted credential gets past the two guarded routes: one asks
for an administrator, the other for any role, and shows exactly the claims of that credential. -/
theorem guarded_routes_mediated (validator : Validator) (counters : Counters)
    (policyTimeout : Option Nat) (stopping : Bool) (moment : Moment) (freshId : String)
    (headers : Headers) :
    let service : Service := ⟨⟨validator, .embedded⟩, counters, policyTimeout, stopping⟩
    let restricted := (respond service moment freshId (getRequest "/v1/test/auth" headers)).1
    let self := (respond service moment freshId (getRequest "/v1/me" headers)).1
    (restricted.status = 200 ↔
      (moment.authentication.Live ∧ moment.authorization.Live) ∧
        ∃ claims, Bears service.access moment headers claims ∧ Role.admin ∈ claims.roles) ∧
    (self.status = 200 ↔
      (moment.authentication.Live ∧ moment.authorization.Live) ∧
        ∃ claims, Bears service.access moment headers claims ∧ claims.roles ≠ []) ∧
    ∀ claims, Bears service.access moment headers claims → self.status = 200 →
      self.body = some claims.toJson := by
  intro service restricted self
  have passes := fun rule claims => admission_embedded_iff validator moment rule headers claims
  have restrictedAnswer := answer_restricted service moment headers
  have selfAnswer := answer_self service moment headers
  refine ⟨?_, ?_, ?_⟩
  · rw [respond_status, restrictedAnswer]
    constructor
    · intro ok
      cases admitted : admission service.access moment .adminOnly headers with
      | error error =>
          rw [admitted] at ok
          exact absurd ok (AccessError.status_ne_ok error)
      | ok claims =>
          obtain ⟨live, bears, granted⟩ := (passes _ _).mp admitted
          exact ⟨live, claims, bears, List.contains_iff_mem.mp granted⟩
    · rintro ⟨live, claims, bears, admin⟩
      rw [(passes .adminOnly claims).mpr ⟨live, bears, List.contains_iff_mem.mpr admin⟩]
      rfl
  · rw [respond_status, selfAnswer]
    constructor
    · intro ok
      cases admitted : admission service.access moment .any headers with
      | error error =>
          rw [admitted] at ok
          exact absurd ok (AccessError.status_ne_ok error)
      | ok claims =>
          obtain ⟨live, bears, granted⟩ := (passes _ _).mp admitted
          rw [AccessRule.grants_any, Bool.not_eq_true', List.isEmpty_eq_false_iff] at granted
          exact ⟨live, claims, bears, granted⟩
    · rintro ⟨live, claims, bears, some_role⟩
      have granted : AccessRule.any.grants claims.roles = true := by
        rw [AccessRule.grants_any, Bool.not_eq_true', List.isEmpty_eq_false_iff]
        exact some_role
      rw [(passes .any claims).mpr ⟨live, bears, granted⟩]
      rfl
  · intro claims bears ok
    rw [respond_status, selfAnswer] at ok
    rw [respond_body, selfAnswer]
    cases admitted : admission service.access moment .any headers with
    | error error =>
        rw [admitted] at ok
        exact absurd ok (AccessError.status_ne_ok error)
    | ok shown =>
        obtain ⟨_, bearsShown, _⟩ := (passes _ _).mp admitted
        rw [bears.unique bearsShown]
        rfl

end Http

end Turnstile
