import Turnstile.Proofs.Http.Accounting
import Turnstile.Proofs.Http.Refusals
set_option autoImplicit false

/-! A service that is stopping. Whoever comes to a guarded page from then on is turned away there: a
token that does not validate is rejected as ever, and any other one is left without a decision. What
was granted before is never added to. -/

namespace Turnstile.Http

/-- The ways past a rule for a caller that has given up from the start. None leads past the token. -/
inductive TurnedBack (validator : Validator) (now : Instant) (headers : Headers) :
    AccessError → Records → Prop where
  | unnamed {error : AccessError} (missing : bearerToken headers = .error error) :
      TurnedBack validator now headers error []
  | invalid {token : String} {cause : CredentialError} (found : bearerToken headers = .ok token)
      (refused : validator.validate (Int64.ofInt now.seconds) token = .error cause) :
      TurnedBack validator now headers (.unauthenticated cause) [(.authentication, .denied)]
  | undecided {token : String} {claims : Claims} (found : bearerToken headers = .ok token)
      (accepted : validator.validate (Int64.ofInt now.seconds) token = .ok claims) :
      TurnedBack validator now headers .cancelled [(.authentication, .failed)]

section Passage

variable {access : AccessControl} {moment : Moment} {rule : AccessRule} {headers : Headers}
  {result : Except AccessError Claims} {records : Records}

theorem Passage.of_invalid {token : String} {cause : CredentialError}
    (passage : Passage access moment rule headers result records)
    (found : bearerToken headers = .ok token)
    (refused : access.validator.validate (Int64.ofInt moment.now.seconds) token = .error cause) :
    result = .error (.unauthenticated cause) := by
  have unauthenticated :=
    AccessControl.authenticateAt_of_invalid access moment.authentication moment.now refused
  cases passage with
  | unnamed missing => cases missing.symm.trans found
  | unauthenticated same failed =>
      cases same.symm.trans found
      cases failed.symm.trans unauthenticated
      rfl
  | unauthorized same accepted _ =>
      cases same.symm.trans found
      cases accepted.symm.trans unauthenticated
  | admitted same accepted _ =>
      cases same.symm.trans found
      cases accepted.symm.trans unauthenticated

/-- A caller that has given up before is turned back, whatever the engine and its policies. -/
theorem Passage.turnedBack (passage : Passage access moment rule headers result records)
    (gone : moment.authentication.before ≠ .live) :
    ∃ error, result = .error error ∧
      TurnedBack access.validator moment.now headers error records := by
  have unaccepted : ∀ token claims,
      access.authenticate moment.authentication moment.now token ≠ .ok claims := by
    intro token claims accepted
    have validated := ((AccessControl.authenticateAt_eq_ok_iff _ _ _ _ _ _).mp accepted).1
    cases accepted.symm.trans
      (AccessControl.authenticateAt_eq_cancelled access moment.now validated gone)
  cases passage with
  | unnamed missing => exact ⟨_, rfl, .unnamed missing⟩
  | @unauthenticated token error found failed =>
      cases validated : access.validator.validate (Int64.ofInt moment.now.seconds) token with
      | error cause =>
          cases failed.symm.trans (AccessControl.authenticateAt_of_invalid access
            moment.authentication moment.now validated)
          exact ⟨_, rfl, .invalid found validated⟩
      | ok claims =>
          cases failed.symm.trans
            (AccessControl.authenticateAt_eq_cancelled access moment.now validated gone)
          exact ⟨_, rfl, .undecided found validated⟩
  | unauthorized _ accepted _ => exact absurd accepted (unaccepted _ _)
  | admitted _ accepted _ => exact absurd accepted (unaccepted _ _)

end Passage

/-- The answer to a request at a service that is stopping: access is refused, a token that does not
validate is rejected as it is by any service, running or stopping, and there is no decision on any
other token. -/
structure Exchange.TurnedAway (access : AccessControl) (exchange : Exchange) : Prop where
  refused : exchange.response.status = 401 ∨ exchange.response.status = 503
  invalid : ∀ token cause, bearerToken exchange.visit.headers = .ok token →
    access.validator.validate (Int64.ofInt exchange.now.seconds) token = .error cause →
      (⟨exchange.response.status, exchange.response.body⟩ : Answer) = rejection ∧
        ∀ service : Service, service.access = access →
          (Session.respond ⟨service, exchange.now⟩ exchange.visit).1 = exchange.response
  valid : ∀ token claims, bearerToken exchange.visit.headers = .ok token →
    access.validator.validate (Int64.ofInt exchange.now.seconds) token = .ok claims →
      exchange.response.status = 503 ∧ exchange.response.errorCode? = some "cancelled"

/-- How a stopping service answers requests, and what it counts. -/
structure Closed (access : AccessControl) (exchanges : List Exchange) (records : Records) :
    Prop where
  turnedAway : ∀ exchange ∈ exchanges, exchange.guarded = true → exchange.TurnedAway access
  shown : ∀ exchange ∈ exchanges,
    exchange.visit.path = "/health" ∨ exchange.visit.path = "/v1/test" →
      exchange.response.status = 200
  ungranted : ∀ record ∈ records,
    record = (.authentication, .denied) ∨ record = (.authentication, .failed)

namespace Closed

variable {access : AccessControl} {exchanges later : List Exchange}
  {records laterRecords : Records}

theorem nothing : Closed access [] [] := by
  constructor <;> intro _ member <;> cases member

theorem append (closed : Closed access exchanges records)
    (closedLater : Closed access later laterRecords) :
    Closed access (exchanges ++ later) (records ++ laterRecords) := by
  constructor
  · intro exchange member
    exact (List.mem_append.mp member).elim (closed.turnedAway exchange)
      (closedLater.turnedAway exchange)
  · intro exchange member
    exact (List.mem_append.mp member).elim (closed.shown exchange) (closedLater.shown exchange)
  · intro record member
    exact (List.mem_append.mp member).elim (closed.ungranted record)
      (closedLater.ungranted record)

theorem count_eq_zero (closed : Closed access exchanges records) {record : Stage × Outcome}
    (notDenied : record ≠ (.authentication, .denied))
    (notFailed : record ≠ (.authentication, .failed)) : records.count record = 0 := by
  refine List.count_eq_zero.mpr fun member => ?_
  exact (closed.ungranted record member).elim notDenied notFailed

end Closed

namespace Session

variable (session : Session)

/-- A token that does not validate gets the same response at a guarded page from every service with
the same access control. -/
theorem respond_of_invalid {visit : Visit} {route : Route} {rule : AccessRule} {token : String}
    {cause : CredentialError} (guarded : route.rule? = some rule)
    (located : Route.ofPath? visit.path = some route)
    (found : bearerToken visit.headers = .ok token)
    (refused : session.service.access.validator.validate (Int64.ofInt session.now.seconds) token =
      .error cause) :
    (session.respond visit).1 = visit.response rejection := by
  obtain ⟨result, records, passage, answered⟩ := session.respond_guarded guarded located
  rw [answered, passage.of_invalid found refused]
  rfl

theorem turnedAway_respond (stopping : session.service.stopping = true) {visit : Visit}
    {route : Route} {rule : AccessRule} (guarded : route.rule? = some rule)
    (located : Route.ofPath? visit.path = some route) :
    ∃ records, (session.respond visit).2 = session.service.recordAll records ∧
      Exchange.TurnedAway session.service.access
        ⟨session.now, visit, (session.respond visit).1⟩ ∧
      ∀ record ∈ records,
        record = (.authentication, .denied) ∨ record = (.authentication, .failed) := by
  obtain ⟨result, records, passage, answered⟩ := session.respond_guarded guarded located
  have cancelled := Visit.standing_look visit stopping 0 visit.authentication.before
  have gone : (visit.moment session.service session.now).authentication.before ≠ .live := by
    intro live
    cases cancelled.symm.trans live
  obtain ⟨error, refused, turnedBack⟩ := passage.turnedBack gone
  rw [answered, refused]
  refine ⟨records, rfl, ?_, ?_⟩
  · constructor
    case refused =>
      cases turnedBack with
      | unnamed missing => exact Or.inl (by rcases error_of_bearerToken missing with rfl | rfl <;> rfl)
      | invalid _ _ => exact Or.inl rfl
      | undecided _ _ => exact Or.inr rfl
    case invalid =>
      intro token cause found invalid
      have rejected := session.respond_of_invalid guarded located found invalid
      rw [answered, refused] at rejected
      rw [show visit.response (route.reply (.error error)) = visit.response rejection from rejected]
      refine ⟨rfl, fun service same => ?_⟩
      exact respond_of_invalid ⟨service, session.now⟩ guarded located found (same ▸ invalid)
    case valid =>
      intro token claims found validated
      cases turnedBack with
      | unnamed missing => cases missing.symm.trans found
      | invalid same invalid =>
          cases same.symm.trans found
          cases invalid.symm.trans validated
      | undecided _ _ => exact ⟨rfl, rfl⟩
  · cases turnedBack with
    | unnamed _ =>
        intro record member
        cases member
    | invalid _ _ =>
        intro record member
        exact Or.inl (List.mem_singleton.mp member)
    | undecided _ _ =>
        intro record member
        exact Or.inr (List.mem_singleton.mp member)

theorem closed_respond (stopping : session.service.stopping = true) (visit : Visit) :
    ∃ records, (session.respond visit).2 = session.service.recordAll records ∧
      Closed session.service.access [⟨session.now, visit, (session.respond visit).1⟩] records := by
  rcases Route.guarded_or_unguarded visit.path with ⟨route, rule, guarded, located, path⟩ |
    ⟨unguarded, notSelf, notRestricted⟩
  · obtain ⟨records, counted, turnedAway, ungranted⟩ :=
      session.turnedAway_respond stopping guarded located
    refine ⟨records, counted, ?_, ?_, ungranted⟩
    · intro exchange member _
      rw [List.mem_singleton.mp member]
      exact turnedAway
    · intro exchange member shown
      rw [List.mem_singleton.mp member] at shown
      rcases path with path | path <;> simp [path] at shown
  · obtain ⟨answer, answered, status⟩ := session.respond_unguarded unguarded
    rw [answered]
    refine ⟨[], rfl, ?_, ?_, ?_⟩
    · intro exchange member guarded
      rw [List.mem_singleton.mp member] at guarded
      simp [Exchange.guarded, notSelf, notRestricted] at guarded
    · intro exchange member shown
      rw [List.mem_singleton.mp member] at shown ⊢
      rw [Visit.response, status]
      rcases shown with path | path
      · rw [show visit.path = "/health" from path]
        rfl
      · rw [show visit.path = "/v1/test" from path]
        rfl
    · intro record member
      cases member

end Session

/-- Once a service has begun to stop, nothing is granted any more, whatever happened before and comes
after and however the policies decide: guarded pages turn everyone away, the others are shown as
before, and the counts of accepted tokens, of access given and of access denied stay as they are. -/
theorem nothing_granted_once_stopping (session : Session) (before after : List Event)
    (begun : session.service.stopping = true ∨ ∃ event ∈ before, event.stops = true) :
    let stopped := session.run before
    let counts := fun session : Session => session.service.counters.count
    (∀ exchange ∈ stopped.exchanges after,
      (exchange.guarded = true → exchange.TurnedAway session.service.access) ∧
      (exchange.visit.path = "/health" ∨ exchange.visit.path = "/v1/test" →
        exchange.response.status = 200)) ∧
    counts (stopped.run after) .authentication .allowed = counts stopped .authentication .allowed ∧
    counts (stopped.run after) .authorization .allowed = counts stopped .authorization .allowed ∧
    counts (stopped.run after) .authorization .denied = counts stopped .authorization .denied := by
  intro stopped counts
  have stopping : stopped.service.stopping = true := by
    rw [Session.stopping_run, Bool.or_eq_true, List.any_eq_true]
    exact begun
  obtain ⟨records, counted, closed⟩ := stopped.exists_records_run
    (fun later => later.service.stopping = true ∧
      later.service.access = session.service.access) Closed.nothing Closed.append
    (by
      rintro later event ⟨stopping, access⟩
      rw [Session.stopping_step, stopping, Session.access_step]
      exact ⟨Bool.true_or _, access⟩)
    (by
      rintro later visit ⟨stopping, access⟩
      exact access ▸ later.closed_respond stopping visit)
    ⟨stopping, session.access_run before⟩ after
  have kept : ∀ stage outcome, (stage, outcome) ≠ (Stage.authentication, Outcome.denied) →
      (stage, outcome) ≠ (Stage.authentication, Outcome.failed) →
      counts (stopped.run after) stage outcome = counts stopped stage outcome := by
    intro stage outcome notDenied notFailed
    simp only [counts]
    rw [counted, Service.recordAll, Counters.count_foldl_record,
      closed.count_eq_zero notDenied notFailed]
    exact UInt64.add_zero _
  refine ⟨?_, kept _ _ (by decide) (by decide), kept _ _ (by decide) (by decide),
    kept _ _ (by decide) (by decide)⟩
  intro exchange member
  exact ⟨closed.turnedAway exchange member, closed.shown exchange member⟩

/-- A visit to the own claims, five minutes into 1970. -/
def selfVisit (token : String) : Visit :=
  ⟨"/v1/me", bearing token, "", 300, {}, {}, none⟩

/-- Once a service was stopped, it rejects a letter and has no decision on a token with a good
signature. -/
theorem nothing_granted_once_stopping_example :
    ∃ token,
      let session : Session := ⟨patientService ⟨exampleStore, 0, none⟩ {}, .ofSeconds 300⟩
      let stopped := session.run [.stop]
      let visits := [Event.request (selfVisit "x"), .request (selfVisit token)]
      (stopped.exchanges visits).map
          (fun exchange => (exchange.response.status, exchange.response.errorCode?)) =
        [(401, some "unauthenticated"), (503, some "cancelled")] ∧
      (stopped.run visits).service.counters.count .authentication .allowed = 0 ∧
      (stopped.run visits).service.counters.count .authorization .allowed = 0 ∧
      (stopped.run visits).service.counters.count .authorization .denied = 0 := by
  obtain ⟨parts, _, claims, _, _, _, _, validated, _⟩ :=
    AccessControl.exists_unreadable (List.mem_cons_self : _ ∈ AccessControl.hardMembers) 300
  refine ⟨parts.compact.render, ?_⟩
  intro session stopped visits
  obtain ⟨answered, accepted, allowed, denied⟩ :=
    nothing_granted_once_stopping session [.stop] visits (Or.inr ⟨.stop, by simp, rfl⟩)
  refine ⟨?_, accepted, allowed, denied⟩
  have rejected := ((answered _ List.mem_cons_self).1 rfl).invalid "x" .malformed
    (bearerToken_bearing (by decide) (by simp [Text.Visible])) rfl
  have undecided := ((answered _ (List.mem_cons_of_mem _ List.mem_cons_self)).1 rfl).valid
    parts.compact.render claims
    (bearerToken_bearing (by simp [Jws.Compact.render])
      fun _ inside => Credential.Parts.visible_of_mem_render inside) validated
  have statusOf := congrArg Answer.status rejected.1
  have bodyOf := congrArg Answer.body rejected.1
  simp only [Session.exchanges, Session.exchange?, visits, List.map_append, Response.errorCode?,
    Option.toList_some, List.append_nil, List.map_cons, List.map_nil] at statusOf bodyOf undecided ⊢
  rw [statusOf, bodyOf, undecided.1, undecided.2]
  rfl

end Turnstile.Http
