import Turnstile.Proofs.Access.Layers
import Turnstile.Proofs.Http.Mediation
set_option autoImplicit false

/-! How requests for pages go, whatever the engine and its policies. The way to a guarded page leads
past the token in the headers, then the credential, then the rule of the page; it ends where one of
them fails, and what is counted on it tells how far it went. No other page counts anything. -/

namespace Turnstile

/-! ### Errors of the two stages -/

namespace AccessError

/-- Errors without a decision: a policy is at fault, or the caller has given up. -/
inductive Undecided : AccessError → Prop where
  | policy (cause : Policy.Error) : Undecided (.policy cause)
  | cancelled : Undecided .cancelled

/-- Errors that reject a credential, in either layer. -/
inductive Rejects : AccessError → Prop where
  | unauthenticated (cause : CredentialError) : Rejects (.unauthenticated cause)
  | denied : Rejects .denied

theorem undecided_ofPolicy (cause : Policy.Error) : Undecided (ofPolicy cause) := by
  cases cause with
  | cancelled => exact .cancelled
  | deadlineExceeded => exact .cancelled
  | parse module text => exact .policy _
  | unknownRule query => exact .policy _
  | eval text => exact .policy _
  | decision text => exact .policy _

end AccessError

namespace AccessControl

open AccessError (Rejects Undecided undecided_ofPolicy)

theorem error_of_authenticateAt {access : AccessControl} {context : Policy.Context}
    {validatedAt judgedAt : Instant} {token : String} {error : AccessError}
    (refused : access.authenticateAt context validatedAt judgedAt token = .error error) :
    Rejects error ∨ Undecided error := by
  cases validated : access.validator.validate (Int64.ofInt validatedAt.seconds) token with
  | error cause =>
      simp only [authenticateAt, validated, Except.error.injEq] at refused
      exact Or.inl (refused ▸ .unauthenticated cause)
  | ok claims =>
      obtain ⟨_, _, _, _, judged⟩ := authenticateAt_of_validate access context judgedAt validated
      rw [judged] at refused
      split at refused
      · cases refused
        exact Or.inr (undecided_ofPolicy _)
      · cases refused
        exact Or.inl .denied
      · cases refused

theorem error_of_authorize {access : AccessControl} {context : Policy.Context} {claims : Claims}
    {rule : AccessRule} {error : AccessError}
    (refused : access.authorize context claims rule = .error error) :
    error = .forbidden rule ∨ Undecided error := by
  unfold authorize at refused
  split at refused
  · cases refused
    exact Or.inr (undecided_ofPolicy _)
  · cases refused
    exact Or.inl rfl
  · cases refused

end AccessControl

/-! ### What is counted -/

/-- Decisions to be counted, in the order in which they are made. -/
abbrev Records := List (Stage × Outcome)

theorem Counters.count_foldl_record (records : Records) (counters : Counters) (stage : Stage)
    (outcome : Outcome) :
    (records.foldl (fun counters (stage, outcome) => counters.record stage outcome) counters).count
        stage outcome =
      counters.count stage outcome + UInt64.ofNat (records.count (stage, outcome)) := by
  induction records generalizing counters with
  | nil => simp
  | cons first rest ih =>
      rw [List.foldl_cons, ih, count_record, List.count_cons, UInt64.ofNat_add]
      by_cases same : first = (stage, outcome)
      · subst same
        simp [UInt64.add_assoc, UInt64.add_comm 1]
      · have apart : ¬ (first.1 = stage ∧ first.2 = outcome) := fun both =>
          same (Prod.ext both.1 both.2)
        simp [same, apart]

/-- The service with some decisions counted. -/
def Service.recordAll (service : Service) (records : Records) : Service :=
  { service with
    counters := records.foldl (fun counters (stage, outcome) => counters.record stage outcome)
      service.counters }

namespace Http

namespace Route

/-- The rule that guards a page. -/
def rule? : Route → Option AccessRule
  | health | status => none
  | restricted => some .adminOnly
  | self => some .any

/-- What a guarded page answers once the way to it has ended. -/
def reply (route : Route) : Except AccessError Claims → Answer
  | .error error => .refusal error
  | .ok claims => .ok (match route with
      | self => claims.toJson
      | _ => statusBody)

theorem unguarded_of_ne {path : String} (notSelf : path ≠ "/v1/me")
    (notRestricted : path ≠ "/v1/test/auth") : (ofPath? path).bind rule? = none := by
  unfold ofPath?
  rw [if_neg notSelf, if_neg notRestricted]
  split
  · rfl
  · split <;> rfl

theorem guarded_or_unguarded (path : String) :
    (∃ route rule, route.rule? = some rule ∧ ofPath? path = some route ∧
      (path = "/v1/me" ∨ path = "/v1/test/auth")) ∨
    ((ofPath? path).bind rule? = none ∧ path ≠ "/v1/me" ∧ path ≠ "/v1/test/auth") := by
  by_cases isSelf : path = "/v1/me"
  · subst isSelf
    exact Or.inl ⟨self, .any, rfl, by decide, Or.inl rfl⟩
  · by_cases isRestricted : path = "/v1/test/auth"
    · subst isRestricted
      exact Or.inl ⟨restricted, .adminOnly, rfl, by decide, Or.inr rfl⟩
    · exact Or.inr ⟨unguarded_of_ne isSelf isRestricted, isSelf, isRestricted⟩

end Route

/-- The ways past a rule: how each of them ends, and what is counted on it. -/
inductive Passage (access : AccessControl) (moment : Moment) (rule : AccessRule)
    (headers : Headers) : Except AccessError Claims → Records → Prop where
  | unnamed {error : AccessError} (missing : bearerToken headers = .error error) :
      Passage access moment rule headers (.error error) []
  | unauthenticated {token : String} {error : AccessError}
      (found : bearerToken headers = .ok token)
      (refused : access.authenticate moment.authentication moment.now token = .error error) :
      Passage access moment rule headers (.error error) [(.authentication, error.outcome)]
  | unauthorized {token : String} {claims : Claims} {error : AccessError}
      (found : bearerToken headers = .ok token)
      (accepted : access.authenticate moment.authentication moment.now token = .ok claims)
      (refused : access.authorize moment.authorization claims rule = .error error) :
      Passage access moment rule headers (.error error)
        [(.authentication, .allowed), (.authorization, error.outcome)]
  | admitted {token : String} {claims : Claims}
      (found : bearerToken headers = .ok token)
      (accepted : access.authenticate moment.authentication moment.now token = .ok claims)
      (allowed : access.authorize moment.authorization claims rule = .ok ()) :
      Passage access moment rule headers (.ok claims)
        [(.authentication, .allowed), (.authorization, .allowed)]

theorem error_of_bearerToken {headers : Headers} {error : AccessError}
    (missing : bearerToken headers = .error error) :
    error = .missingHeader ∨ error = .invalidHeader := by
  unfold bearerToken at missing
  split at missing
  · cases missing
    exact Or.inl rfl
  · split at missing
    · cases missing
    · cases missing
      exact Or.inr rfl

/-- A request whose bearer is not known yet goes one of these ways past a rule. -/
theorem passage_authorizeBearer (service : Service) (moment : Moment) (rule : AccessRule)
    {request : Request} (unknown : request.bearer = none) :
    ∃ result records, Passage service.access moment rule request.headers result records ∧
      authorizeBearer service moment rule request = (result, service.recordAll records) := by
  simp only [authorizeBearer, authenticateBearer, unknown]
  cases found : bearerToken request.headers with
  | error error => exact ⟨_, _, .unnamed found, rfl⟩
  | ok token =>
      simp only [Service.authenticate]
      cases accepted : service.access.authenticate moment.authentication moment.now token with
      | error error => exact ⟨_, _, .unauthenticated found accepted, rfl⟩
      | ok claims =>
          simp only [Service.authorize, Service.record]
          cases allowed : service.access.authorize moment.authorization claims rule with
          | error error => exact ⟨_, _, .unauthorized found accepted allowed, rfl⟩
          | ok _ => exact ⟨_, _, .admitted found accepted allowed, rfl⟩

/-- To authenticate a request before its page does is to do what the page would do, and to let it
know who the bearer is. -/
theorem withBearer_eq (service : Service) (moment : Moment) {request : Request}
    (unknown : request.bearer = none) (next : Service → Request → Answer × Service) :
    withBearer service moment request next =
      match authenticateBearer service moment request with
      | (.error error, service) => (.refusal error, service)
      | (.ok claims, service) => next service { request with bearer := some claims } := by
  simp only [withBearer, authenticateBearer, unknown]
  cases bearerToken request.headers with
  | error error => rfl
  | ok token => rfl

theorem withBearer_fetch_self (service : Service) (moment : Moment) {request : Request}
    (unknown : request.bearer = none) :
    (withBearer service moment request fun service request =>
        Route.self.fetch service moment request) =
      Route.self.fetch service moment request := by
  simp only [withBearer_eq service moment unknown, Route.fetch, authorizeBearer]
  cases authenticateBearer service moment request with
  | mk result counted => cases result <;> rfl

/-- Both guarded pages answer what the way past their rule comes to, and count what is counted on
it. -/
theorem answer_guarded {route : Route} {rule : AccessRule} (guarded : route.rule? = some rule)
    {path : String} (located : Route.ofPath? path = some route) (service : Service)
    (moment : Moment) (headers : Headers) :
    ∃ result records, Passage service.access moment rule headers result records ∧
      answer service moment (getRequest path headers) =
        (route.reply result, none, service.recordAll records) := by
  obtain ⟨result, records, passage, passed⟩ := passage_authorizeBearer service moment rule
    (rfl : (getRequest path headers).bearer = none)
  refine ⟨result, records, passage, ?_⟩
  have fetched : route.fetch service moment (getRequest path headers) =
      (route.reply result, service.recordAll records) := by
    cases route with
    | health => cases guarded
    | status => cases guarded
    | restricted =>
        cases guarded
        simp only [Route.fetch, passed]
        cases result <;> rfl
    | self =>
        cases guarded
        simp only [Route.fetch, passed]
        cases result <;> rfl
  have answered : route.answer service moment (getRequest path headers) =
      route.fetch service moment (getRequest path headers) := by
    cases route with
    | health => rfl
    | status => rfl
    | restricted => rfl
    | self => exact withBearer_fetch_self service moment rfl
  have notOptions : (getRequest path headers).method ≠ .options := by
    intro same
    cases same
  have samePath : (getRequest path headers).path = path := rfl
  simp only [answer, samePath, located, if_neg notOptions, answered, fetched]
  rfl

theorem answer_unguarded {path : String}
    (unguarded : (Route.ofPath? path).bind Route.rule? = none) (service : Service)
    (moment : Moment) (headers : Headers) :
    ∃ answered, answer service moment (getRequest path headers) = (answered, none, service) ∧
      answered.status = if (Route.ofPath? path).isSome then 200 else 404 := by
  cases located : Route.ofPath? path with
  | none =>
      refine ⟨.empty 404, ?_, rfl⟩
      simp only [answer, getRequest, located]
      rfl
  | some route =>
      rw [located] at unguarded
      cases route with
      | health =>
          refine ⟨.ok (healthBody service), ?_, rfl⟩
          simp only [answer, getRequest, located]
          rfl
      | status =>
          refine ⟨.ok statusBody, ?_, rfl⟩
          simp only [answer, getRequest, located]
          rfl
      | restricted => cases unguarded
      | self => cases unguarded

end Http

end Turnstile
