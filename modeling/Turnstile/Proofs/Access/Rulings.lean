import Turnstile.Proofs.Access.Layers
import Turnstile.Proofs.Policy.Decision
set_option autoImplicit false

/-! What access control makes of evaluations, whatever the engine and its policies. Access is given
only on the one boolean that is true, in time; a denial, a failure and a caller that has given up
are kept apart. -/

namespace Turnstile

open Policy (Bindings Context Ending Rows Standing resultBinding)

namespace AccessError

/-- The result of an evaluation as access control reports it. -/
def settle {Granted : Type} (denial : AccessError) (granted : Granted) :
    Except Policy.Error Bool → Except AccessError Granted
  | .error error => .error (ofPolicy error)
  | .ok false => .error denial
  | .ok true => .ok granted

theorem ofPolicy_eq_cancelled {standing : Standing} {error : Policy.Error}
    (gone : standing.check = .error error) : standing ≠ .live ∧ ofPolicy error = .cancelled := by
  have notLive : standing ≠ .live := by
    rintro rfl
    cases gone
  obtain ⟨other, checked, cancelled⟩ := ofPolicy_of_check notLive
  cases gone.symm.trans checked
  exact ⟨notLive, cancelled⟩

/-- What a result says of the evaluation behind it: each kind of result has its own condition. -/
structure Settled {Granted : Type} (context : Context) (evaluated : Except String Rows)
    (denial : AccessError) (granted : Granted) (result : Except AccessError Granted) : Prop where
  granted_only : ∀ given, result = .ok given → given = granted
  granted_iff : result = .ok granted ↔
    context.Live ∧ ∃ row, evaluated = .ok [row] ∧
      Json.lookup? resultBinding row = some (.bool true)
  denied_iff : result = .error denial ↔
    context.Live ∧ (evaluated = .ok [] ∨ ∃ row, evaluated = .ok [row] ∧
      Json.lookup? resultBinding row = some (.bool false))
  cancelled_iff : result = .error .cancelled ↔
    context.before ≠ .live ∨ (∃ rows, evaluated = .ok rows) ∧ context.after ≠ .live
  fault_iff : (∃ message, result = .error (.policy (.eval message))) ↔
    context.before = .live ∧ ∃ cause, evaluated = .error cause
  undecided_iff : (∃ message, result = .error (.policy (.decision message))) ↔
    context.Live ∧ ∃ rows, evaluated = .ok rows ∧ Rows.Undecided rows

section Settled

variable {Granted : Type} {context : Context} {module : String} {evaluated : Except String Rows}
  {denial : AccessError} (granted : Granted)

theorem settled_of_ending {ended : Except Policy.Error Bool}
    (ending : Ending context module evaluated ended) (notCancelled : denial ≠ .cancelled)
    (notPolicy : ∀ cause, denial ≠ .policy cause) :
    Settled context evaluated denial granted (settle denial granted ended) := by
  cases ending with
  | goneBefore gone =>
      obtain ⟨before, cancelled⟩ := ofPolicy_eq_cancelled gone
      constructor <;> simp [settle, cancelled, before, Context.Live, notCancelled.symm]
  | fault waited failed =>
      constructor <;> simp [settle, ofPolicy, waited, failed, Ne.symm (notPolicy _)]
  | goneAfter waited found gone =>
      obtain ⟨after, cancelled⟩ := ofPolicy_eq_cancelled gone
      constructor <;>
        simp [settle, cancelled, waited, found, after, Context.Live, notCancelled.symm]
  | undecided message live found undecided =>
      rename_i rows
      have undenied := mt (Rows.decides_false_iff rows).mpr
        (Rows.not_decides_of_undecided undecided false)
      have ungranted := mt (Rows.decides_true_iff rows).mpr
        (Rows.not_decides_of_undecided undecided true)
      constructor <;>
        simp_all [settle, ofPolicy, Context.Live, Ne.symm (notPolicy _)]
  | decided live found decides =>
      rename_i rows allowed
      have undecided : ¬ Rows.Undecided rows := fun undecided =>
        Rows.not_decides_of_undecided undecided allowed decides
      have denies := Rows.decides_false_iff rows
      have grants := Rows.decides_true_iff rows
      cases allowed with
      | false =>
          have ungranted : ¬ Rows.Decides rows true := fun grants => by cases decides.unique grants
          constructor <;> simp_all [settle, Context.Live]
      | true =>
          have undenied : ¬ Rows.Decides rows false := fun denies => by cases decides.unique denies
          constructor <;> simp_all [settle, Context.Live]

end Settled

end AccessError

namespace AccessControl

open AccessError (Settled settle settled_of_ending)

theorem authorize_eq_settle (access : AccessControl) (context : Context) (claims : Claims)
    (rule : AccessRule) :
    access.authorize context claims rule =
      settle (.forbidden rule) ()
        (access.engine.evaluateAuthorization context rule claims.roles claims.subject) := by
  unfold authorize
  cases access.engine.evaluateAuthorization context rule claims.roles claims.subject with
  | error error => rfl
  | ok allowed => cases allowed <;> rfl

/-- What a token that validates comes to is settled by the evaluation under the key that its header
asks for. -/
theorem authenticateAt_eq_settle (access : AccessControl) (context : Context)
    {validatedAt : Instant} (judgedAt : Instant) {token : String} {claims : Claims}
    (accepted : access.validator.validate (Int64.ofInt validatedAt.seconds) token = .ok claims) :
    ∃ kid pair, Credential.kid token = .ok kid ∧ access.keys.get? kid = some pair ∧
      access.authenticateAt context validatedAt judgedAt token =
        settle .denied claims
          (access.engine.evaluateAuthentication context judgedAt pair.publicPem token
            claims.issuer) := by
  obtain ⟨kid, pair, asked, found, judged⟩ :=
    authenticateAt_of_validate access context judgedAt accepted
  refine ⟨kid, pair, asked, found, ?_⟩
  rw [judged]
  cases access.engine.evaluateAuthentication context judgedAt pair.publicPem token
      claims.issuer with
  | error error => rfl
  | ok allowed => cases allowed <;> rfl

/-- There is no fallback. Whatever the engine makes of an input, a rule allows access, and a token
that validates is accepted, only for a caller that waits to the end and on a single row whose result
is true; each other ending has its own error, and a caller is found to have given up before its time
has run out. -/
theorem settled_by_evaluation (access : AccessControl) (context : Context) :
    (∀ claims rule,
      let query := access.engine.authorization rule
      let evaluated := query.evaluate context.wallSeconds
        (Policy.Engine.authorizationInput claims.roles claims.subject)
      Ending context query.module evaluated
          (access.engine.evaluateAuthorization context rule claims.roles claims.subject) ∧
        Settled context evaluated (.forbidden rule) () (access.authorize context claims rule)) ∧
    (∀ validatedAt judgedAt token claims,
      access.validator.validate (Int64.ofInt validatedAt.seconds) token = .ok claims →
      ∃ kid pair, Credential.kid token = .ok kid ∧ access.keys.get? kid = some pair ∧
        let query := access.engine.authentication
        let evaluated := query.evaluate context.wallSeconds
          (Policy.Engine.authenticationInput pair.publicPem token claims.issuer judgedAt)
        Ending context query.module evaluated
            (access.engine.evaluateAuthentication context judgedAt pair.publicPem token
              claims.issuer) ∧
          Settled context evaluated .denied claims
            (access.authenticateAt context validatedAt judgedAt token)) ∧
    ∀ isCancelled isExpired, (Standing.of isCancelled isExpired).check =
      if isCancelled = true then .error .cancelled
      else if isExpired = true then .error .deadlineExceeded
      else .ok () := by
  refine ⟨?authorization, ?authentication, Standing.check_of⟩
  case authorization =>
    intro claims rule query evaluated
    have ending := query.ending_decide
      (Policy.Engine.authorizationInput claims.roles claims.subject) context
    refine ⟨ending, ?_⟩
    rw [authorize_eq_settle]
    exact settled_of_ending () ending (by simp) (by simp)
  case authentication =>
    intro validatedAt judgedAt token claims accepted
    obtain ⟨kid, pair, asked, found, judged⟩ :=
      authenticateAt_eq_settle access context judgedAt accepted
    refine ⟨kid, pair, asked, found, ?_⟩
    intro query evaluated
    have ending := query.ending_decide
      (Policy.Engine.authenticationInput pair.publicPem token claims.issuer judgedAt) context
    refine ⟨ending, ?_⟩
    rw [judged]
    exact settled_of_ending claims ending (by simp) (by simp)

/-- An engine that answers every query with a text. -/
def wordyEngine : Policy.Engine :=
  let query : Policy.PreparedQuery :=
    ⟨"wordy", "x = data.wordy.answer", fun _ _ => .ok [[(resultBinding, .string "true")]]⟩
  ⟨query, fun _ => query⟩

/-- A text is no decision, even if it says true; in time it is a failure of the policy, and when the
time has run out meanwhile, it does not count at all. -/
theorem settled_by_evaluation_example :
    ∃ token,
      (Validator.mk exampleStore 60 none).validate 90 token = .ok exampleClaims ∧
      (∃ message, (AccessControl.mk ⟨exampleStore, 60, none⟩ wordyEngine).authenticateAt
        ⟨.live, .live, 0⟩ (.ofSeconds 90) (.ofSeconds 91) token =
          .error (.policy (.decision message))) ∧
      (AccessControl.mk ⟨exampleStore, 60, none⟩ wordyEngine).authenticateAt
        ⟨.live, .expired, 0⟩ (.ofSeconds 90) (.ofSeconds 91) token = .error .cancelled := by
  obtain ⟨token, validated⟩ := validate_exampleToken
  have second : Int64.ofInt (Instant.ofSeconds 90).seconds = 90 := by decide
  have accepted : (Validator.mk exampleStore 60 none).validate 90 token = .ok exampleClaims := by
    rw [validated, if_neg (by decide)]
  refine ⟨token, accepted, ?_, ?_⟩
  · obtain ⟨_, authentication, _⟩ :=
      settled_by_evaluation ⟨⟨exampleStore, 60, none⟩, wordyEngine⟩ ⟨.live, .live, 0⟩
    obtain ⟨_, _, _, _, _, settled⟩ :=
      authentication (.ofSeconds 90) (.ofSeconds 91) token exampleClaims (second ▸ accepted)
    exact settled.undecided_iff.mpr
      ⟨⟨rfl, rfl⟩, _, rfl, .notBoolean rfl fun _ same => by cases same⟩
  · obtain ⟨_, authentication, _⟩ :=
      settled_by_evaluation ⟨⟨exampleStore, 60, none⟩, wordyEngine⟩ ⟨.live, .expired, 0⟩
    obtain ⟨_, _, _, _, _, settled⟩ :=
      authentication (.ofSeconds 90) (.ofSeconds 91) token exampleClaims (second ▸ accepted)
    exact settled.cancelled_iff.mpr (Or.inr ⟨⟨_, rfl⟩, by decide⟩)

end AccessControl

end Turnstile
