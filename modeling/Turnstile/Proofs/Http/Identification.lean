import Turnstile.Proofs.Http.Passage
set_option autoImplicit false

/-! Who bears a request. A request is authenticated on the way to its page or by the page itself.
What the page learns is the same, so is the refusal if there is one, and one decision is counted,
or none if the headers have no token. -/

namespace Turnstile

/-- A service has counted some decisions, each once, and has changed in nothing else. -/
structure Service.Counted (records : Records) (before after : Service) : Prop where
  counts : ∀ stage outcome, after.counters.count stage outcome =
    before.counters.count stage outcome + UInt64.ofNat (records.count (stage, outcome))
  unchanged : after = { before with counters := after.counters }

theorem Service.counted_recordAll (service : Service) (records : Records) :
    service.Counted records (service.recordAll records) where
  counts := Counters.count_foldl_record records service.counters
  unchanged := rfl

namespace Http

/-- The ways to the bearer of a request: how each of them ends, and what is counted on it. -/
inductive Identification (access : AccessControl) (moment : Moment) (headers : Headers) :
    Except AccessError Claims → Records → Prop where
  | unnamed {error : AccessError} (missing : bearerToken headers = .error error) :
      Identification access moment headers (.error error) []
  | refused {token : String} {error : AccessError} (found : bearerToken headers = .ok token)
      (refused : access.authenticate moment.authentication moment.now token = .error error) :
      Identification access moment headers (.error error) [(.authentication, error.outcome)]
  | known {token : String} {claims : Claims} (found : bearerToken headers = .ok token)
      (accepted : access.authenticate moment.authentication moment.now token = .ok claims) :
      Identification access moment headers (.ok claims) [(.authentication, .allowed)]

/-- A page that is shown to known bearers. Anybody else is refused. -/
def shownTo (page : Claims → Service → Answer × Service) :
    Except AccessError Claims × Service → Answer × Service
  | (.error error, service) => (.refusal error, service)
  | (.ok claims, service) => page claims service

section Bearer

variable (service : Service) (moment : Moment) {request : Request}

theorem identification_authenticateBearer (unknown : request.bearer = none) :
    ∃ result records, Identification service.access moment request.headers result records ∧
      authenticateBearer service moment request = (result, service.recordAll records) := by
  simp only [authenticateBearer, unknown]
  cases found : bearerToken request.headers with
  | error error => exact ⟨_, _, .unnamed found, rfl⟩
  | ok token =>
      simp only [Service.authenticate]
      cases accepted : service.access.authenticate moment.authentication moment.now token with
      | error error => exact ⟨_, _, .refused found accepted, rfl⟩
      | ok claims => exact ⟨_, _, .known found accepted, rfl⟩

/-- A page that asks for the bearer itself finds the one who is known by then, and nobody is
authenticated twice. -/
theorem withBearer_shownTo (unknown : request.bearer = none)
    (page : Claims → Service → Answer × Service) :
    (withBearer service moment request fun service request =>
        shownTo page (authenticateBearer service moment request)) =
      shownTo page (authenticateBearer service moment request) := by
  rw [withBearer_eq service moment unknown]
  cases authenticateBearer service moment request with
  | mk result counted => cases result <;> rfl

theorem withBearer_shownTo_authorized (unknown : request.bearer = none) (rule : AccessRule)
    (page : Claims → Service → Answer × Service) :
    (withBearer service moment request fun service request =>
        shownTo page (authorizeBearer service moment rule request)) =
      shownTo page (authorizeBearer service moment rule request) := by
  rw [withBearer_eq service moment unknown, authorizeBearer]
  cases authenticateBearer service moment request with
  | mk result counted => cases result <;> rfl

end Bearer

/-- It makes no difference who authenticates a request whose bearer is not known, the way to a page
or the page itself: the page learns of the same claims or the request is refused with the same
error, and the same decision is counted, or none without a token. Neither does it where the page is
behind a rule. -/
theorem bearer_known_alike (service : Service) (moment : Moment) {request : Request}
    (unknown : request.bearer = none) :
    (∃ result records after, Identification service.access moment request.headers result records ∧
      service.Counted records after ∧
      authenticateBearer service moment request = (result, after) ∧
      ∀ page, (withBearer service moment request fun service request =>
          shownTo page (authenticateBearer service moment request)) =
        shownTo page (result, after)) ∧
    ∀ rule, ∃ result records after,
      Passage service.access moment rule request.headers result records ∧
      service.Counted records after ∧
      authorizeBearer service moment rule request = (result, after) ∧
      ∀ page, (withBearer service moment request fun service request =>
          shownTo page (authorizeBearer service moment rule request)) =
        shownTo page (result, after) := by
  constructor
  · obtain ⟨result, records, identified, alone⟩ :=
      identification_authenticateBearer service moment unknown
    refine ⟨result, records, _, identified, service.counted_recordAll records, alone, fun page => ?_⟩
    rw [withBearer_shownTo service moment unknown, alone]
  · intro rule
    obtain ⟨result, records, passage, alone⟩ := passage_authorizeBearer service moment rule unknown
    refine ⟨result, records, _, passage, service.counted_recordAll records, alone, fun page => ?_⟩
    rw [withBearer_shownTo_authorized service moment unknown, alone]

def exampleService : Service := ⟨⟨⟨exampleStore, 0, none⟩, .embedded⟩, {}, none, false⟩

def exampleMoment : Moment := ⟨.ofSeconds 300, ⟨.live, .live, 0⟩, ⟨.live, .live, 0⟩⟩

/-- The bearer of a token without segments is refused on the way to a page for administrators as the
page would do it, and one denial is counted. -/
theorem bearer_known_alike_example :
    let request := getRequest "/v1/test/auth" [("Authorization", Utf8.encode "Bearer x")]
    request.bearer = none ∧
      ∃ after, (withBearer exampleService exampleMoment request fun service request =>
          shownTo (fun claims service => (.ok claims.toJson, service))
            (authorizeBearer service exampleMoment .adminOnly request)) =
          (.refusal (.unauthenticated .malformed), after) ∧
        ∀ stage outcome, after.counters.count stage outcome =
          if stage = .authentication ∧ outcome = .denied then 1 else 0 := by
  intro request
  have unknown : request.bearer = none := rfl
  have found : bearerToken request.headers = .ok "x" := by decide
  obtain ⟨result, records, after, passage, counted, _, shown⟩ :=
    (bearer_known_alike exampleService exampleMoment unknown).2 .adminOnly
  have refused : exampleService.access.authenticate exampleMoment.authentication
      exampleMoment.now "x" = .error (.unauthenticated .malformed) := rfl
  have denied : result = .error (.unauthenticated .malformed) ∧
      records = [(.authentication, .denied)] := by
    cases passage with
    | unnamed missing => cases found.symm.trans missing
    | unauthenticated other refusal =>
        cases found.symm.trans other
        cases refused.symm.trans refusal
        exact ⟨rfl, rfl⟩
    | unauthorized other accepted _ =>
        cases found.symm.trans other
        cases refused.symm.trans accepted
    | admitted other accepted _ =>
        cases found.symm.trans other
        cases refused.symm.trans accepted
  obtain ⟨rfl, rfl⟩ := denied
  refine ⟨unknown, after, shown _, fun stage outcome => ?_⟩
  rw [counted.counts]
  cases stage <;> cases outcome <;> rfl

end Http

end Turnstile
