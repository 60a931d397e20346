import Turnstile.Proofs.Access.Refusals
import Turnstile.Proofs.Http.Bearer
import Turnstile.Proofs.Http.Mediation
set_option autoImplicit false

/-! What callers learn from a refusal at the guarded pages. They are told that they are not
authenticated, and not why, with one exception: an unreadable token makes the service fail, and the
caller is told so. -/

namespace Turnstile.Http

open AccessControl (Refusal Unreadable deepMember hardMembers numeralMember payloadWith)

/-- What a caller is told whose token is refused. -/
def rejection : Answer :=
  ⟨401, some (.object [("error", .string "not authenticated"),
    ("error_code", .string "unauthenticated")])⟩

/-- What a caller is told when the service fails. -/
def failure : Answer :=
  ⟨500, some (.object [("error", .string "internal error"),
    ("error_code", .string "internal_error")])⟩

/-- A request for a page, with the circumstances that it comes in. -/
structure Attempt where
  path : String
  headers : Headers
  freshId : String
  now : Instant
  wallSeconds : Int
  authentication : Pace
  authorization : Pace

namespace Attempt

variable (attempt : Attempt) (service : Service)

def moment : Moment :=
  service.moment attempt.now attempt.wallSeconds attempt.authentication attempt.authorization

/-- The status and the content of the response. -/
def answer : Answer :=
  let response := (respond service (attempt.moment service) attempt.freshId
    (getRequest attempt.path attempt.headers)).1
  ⟨response.status, response.body⟩

/-- The request is for a guarded page, with a token that is not accepted. -/
structure Refused (token : String) : Prop where
  guarded : attempt.path = "/v1/me" ∨ attempt.path = "/v1/test/auth"
  bears : bearerToken attempt.headers = .ok token
  unaccepted : ∀ claims, service.access.authenticate (attempt.moment service).authentication
    attempt.now token ≠ .ok claims

variable {attempt service}

theorem Refused.answer_eq {token : String} (refused : attempt.Refused service token)
    {error : AccessError}
    (result : service.access.authenticate (attempt.moment service).authentication attempt.now
      token = .error error) :
    attempt.answer service = .refusal error := by
  have notAdmitted : ∀ rule, admission service.access (attempt.moment service) rule
      attempt.headers = .error error := by
    intro rule
    have same : service.access.authenticate (attempt.moment service).authentication
      (attempt.moment service).now token = .error error := result
    simp only [admission, refused.bears, same, bind, Except.bind]
  simp only [answer]
  rcases refused.guarded with path | path
  · rw [respond_status, respond_body, path, answer_self, notAdmitted]
  · rw [respond_status, respond_body, path, answer_restricted, notAdmitted]

end Attempt

/-- A service over the embedded policies that is not stopping and leaves policies their time. -/
def patientService (validator : Validator) (counters : Counters) : Service :=
  ⟨⟨validator, .embedded⟩, counters, none, false⟩

theorem rejection_ne_failure : rejection ≠ failure := by
  intro same
  cases congrArg Answer.status same

section Patient

variable {validator : Validator} {counters : Counters} {attempt : Attempt} {token : String}

/-- A refused token is rejected, or else it is unreadable and the service fails. -/
theorem Attempt.Refused.rejected_or_failed
    (refused : attempt.Refused (patientService validator counters) token) :
    (¬ Unreadable validator attempt.wallSeconds attempt.now token ∧
        attempt.answer (patientService validator counters) = rejection) ∨
      (Unreadable validator attempt.wallSeconds attempt.now token ∧
        attempt.answer (patientService validator counters) = failure) := by
  have live : (attempt.moment (patientService validator counters)).authentication.Live := ⟨rfl, rfl⟩
  have refusal := AccessControl.refusal_of_authenticate validator live refused.unaccepted
  cases result : (patientService validator counters).access.authenticate
      (attempt.moment (patientService validator counters)).authentication attempt.now token with
  | ok claims => exact absurd result (refused.unaccepted claims)
  | error error =>
      rw [refused.answer_eq result]
      have refusal : Refusal validator attempt.wallSeconds attempt.now token (.error error) :=
        result ▸ refusal
      cases refusal with
      | fault cause unreadable => exact Or.inr ⟨unreadable, rfl⟩
      | credential cause readable => exact Or.inl ⟨readable, rfl⟩
      | denied readable => exact Or.inl ⟨readable, rfl⟩

theorem Attempt.Refused.rejected_iff
    (refused : attempt.Refused (patientService validator counters) token) :
    attempt.answer (patientService validator counters) = rejection ↔
      ¬ Unreadable validator attempt.wallSeconds attempt.now token := by
  rcases refused.rejected_or_failed with ⟨readable, rejected⟩ | ⟨unreadable, failed⟩
  · exact iff_of_true rejected readable
  · rw [failed]
    exact iff_of_false rejection_ne_failure.symm (not_not.mpr unreadable)

theorem Attempt.Refused.failed_iff
    (refused : attempt.Refused (patientService validator counters) token) :
    attempt.answer (patientService validator counters) = failure ↔
      Unreadable validator attempt.wallSeconds attempt.now token := by
  rcases refused.rejected_or_failed with ⟨readable, rejected⟩ | ⟨unreadable, failed⟩
  · rw [rejected]
    exact iff_of_false rejection_ne_failure readable
  · exact iff_of_true failed unreadable

end Patient

/-- Refusals at the guarded pages are alike, whatever is wrong with the tokens and whenever they are
presented, unless just one of the tokens is unreadable: then the answers tell which one. A token with
known members only is rejected like any other. -/
theorem refusals_alike_iff (validator : Validator) (counters otherCounters : Counters)
    {attempt other : Attempt} {token otherToken : String}
    (refused : attempt.Refused (patientService validator counters) token)
    (otherRefused : other.Refused (patientService validator otherCounters) otherToken) :
    let answer := attempt.answer (patientService validator counters)
    let otherAnswer := other.answer (patientService validator otherCounters)
    let unreadable := Unreadable validator attempt.wallSeconds attempt.now token
    let otherUnreadable := Unreadable validator other.wallSeconds other.now otherToken
    (answer = rejection ↔ ¬ unreadable) ∧ (answer = failure ↔ unreadable) ∧
      (answer = otherAnswer ↔ (unreadable ↔ otherUnreadable)) ∧
      (Credential.OnlyKnownMembers token → answer = rejection) := by
  intro answer otherAnswer unreadable otherUnreadable
  refine ⟨refused.rejected_iff, refused.failed_iff, ?_, ?_⟩
  · constructor
    · intro same
      have alike := refused.failed_iff
      rw [show attempt.answer _ = other.answer _ from same, otherRefused.failed_iff] at alike
      exact alike.symm
    · intro alike
      by_cases fails : unreadable
      · exact (refused.failed_iff.mpr fails).trans
          (otherRefused.failed_iff.mpr (alike.mp fails)).symm
      · exact (refused.rejected_iff.mpr fails).trans
          (otherRefused.rejected_iff.mpr (mt alike.mpr fails)).symm
  · intro only
    exact refused.rejected_iff.mpr
      (AccessControl.not_unreadable_of_onlyKnownMembers validator _ _ only)

/-- An attempt to see the own claims with a token, five minutes into 1970. -/
def selfAttempt (token : String) : Attempt :=
  ⟨"/v1/me", bearing token, "", .ofSeconds 300, 300, {}, {}⟩

def exampleRefuser : Service := patientService ⟨exampleStore, 0, none⟩ {}

/-- Signed tokens are refused that policies cannot read, for either reason. -/
theorem exists_refused_unreadable {member : List Char} (hard : member ∈ hardMembers) :
    ∃ parts : Credential.Parts, parts.payload = payloadWith member ∧
      (selfAttempt parts.compact.render).Refused exampleRefuser parts.compact.render ∧
      Unreadable ⟨exampleStore, 0, none⟩ 300 (.ofSeconds 300) parts.compact.render := by
  obtain ⟨parts, payload, unreadable⟩ := AccessControl.exists_unreadable hard 300
  exact ⟨parts, payload, {
    guarded := Or.inl rfl
    bears := bearerToken_bearing (by simp [Jws.Compact.render])
      fun _ inside => Credential.Parts.visible_of_mem_render inside
    unaccepted := AccessControl.not_authenticated_of_unreadable _ unreadable }, unreadable⟩

/-- One letter is rejected as a token, and signed tokens that are unreadable make the service fail:
what the caller is told differs. -/
theorem refusals_alike_iff_example :
    ∃ deep numeral : Credential.Parts,
      deep.payload = payloadWith deepMember ∧ numeral.payload = payloadWith numeralMember ∧
      (selfAttempt "x").Refused exampleRefuser "x" ∧
      (selfAttempt deep.compact.render).Refused exampleRefuser deep.compact.render ∧
      (selfAttempt numeral.compact.render).Refused exampleRefuser numeral.compact.render ∧
      (selfAttempt "x").answer exampleRefuser = rejection ∧
      (selfAttempt deep.compact.render).answer exampleRefuser = failure ∧
      (selfAttempt "x").answer exampleRefuser ≠
        (selfAttempt deep.compact.render).answer exampleRefuser ∧
      (selfAttempt deep.compact.render).answer exampleRefuser =
        (selfAttempt numeral.compact.render).answer exampleRefuser := by
  obtain ⟨deep, deepPayload, deepRefused, deepUnreadable⟩ :=
    exists_refused_unreadable (List.mem_cons_self : deepMember ∈ hardMembers)
  obtain ⟨numeral, numeralPayload, numeralRefused, numeralUnreadable⟩ :=
    exists_refused_unreadable (List.mem_cons_of_mem _ List.mem_cons_self :
      numeralMember ∈ hardMembers)
  have malformed : ∀ now, (Validator.mk exampleStore 0 none).validate now "x" =
      .error .malformed := fun now => rfl
  have letter : (selfAttempt "x").Refused exampleRefuser "x" := {
    guarded := Or.inl rfl
    bears := bearerToken_bearing (by decide) (by simp [Text.Visible])
    unaccepted := by
      intro claims accepted
      obtain ⟨validated, _⟩ := (AccessControl.authenticateAt_eq_ok_iff _ _ _ _ _ _).mp accepted
      cases (malformed _).symm.trans validated }
  have letterReadable : ¬ Unreadable ⟨exampleStore, 0, none⟩ 300 (.ofSeconds 300) "x" := by
    rintro ⟨_, _, _, _, _, validated, _⟩
    cases (malformed _).symm.trans validated
  obtain ⟨rejected, _, apart, _⟩ :=
    refusals_alike_iff ⟨exampleStore, 0, none⟩ {} {} letter deepRefused
  obtain ⟨_, failed, alike, _⟩ :=
    refusals_alike_iff ⟨exampleStore, 0, none⟩ {} {} deepRefused numeralRefused
  exact ⟨deep, numeral, deepPayload, numeralPayload, letter, deepRefused, numeralRefused,
    rejected.mpr letterReadable, failed.mpr deepUnreadable,
    fun same => letterReadable ((apart.mp same).mpr deepUnreadable),
    alike.mpr (iff_of_true deepUnreadable numeralUnreadable)⟩

end Turnstile.Http
