import Turnstile.Proofs.Http.Session
set_option autoImplicit false

/-! The counts of decisions account for the requests that were answered. Every token that was
presented was counted once when it was authenticated, and once more when it was accepted; each
response has the count that its status belongs to. -/

namespace Turnstile

namespace AccessError

theorem Undecided.outcome_eq {error : AccessError} (undecided : Undecided error) :
    error.outcome = .failed := by
  cases undecided <;> rfl

theorem Rejects.outcome_eq {error : AccessError} (rejects : Rejects error) :
    error.outcome = .denied := by
  cases rejects <;> rfl

end AccessError

namespace Http

/-- The code of the error that a response tells of. -/
def Response.errorCode? (response : Response) : Option String :=
  (response.body.bind (Json.get? "error_code")).bind Json.string?

namespace Exchange

variable (exchange : Exchange)

/-- The request was for a guarded page. -/
def guarded : Bool := exchange.visit.path = "/v1/me" || exchange.visit.path = "/v1/test/auth"

/-- A token was presented at a guarded page. -/
def presented : Bool := exchange.guarded && (bearerToken exchange.visit.headers).isOk

/-- A guarded page was shown. -/
def granted : Bool := exchange.guarded && exchange.response.status = 200

def forbidden : Bool := exchange.response.status = 403

/-- A token was rejected. -/
def rejected : Bool :=
  exchange.response.status = 401 && exchange.response.errorCode? = some "unauthenticated"

def failed : Bool := exchange.response.status = 500 || exchange.response.status = 503

end Exchange

/-- What an exchange is counted as. -/
structure Kinds where
  presented : Bool
  granted : Bool
  forbidden : Bool
  rejected : Bool
  failed : Bool

def Exchange.kinds (exchange : Exchange) : Kinds :=
  ⟨exchange.presented, exchange.granted, exchange.forbidden, exchange.rejected, exchange.failed⟩

namespace Kinds

/-- What an exchange is in which access is refused. -/
def ofRefusal (presented : Bool) (error : AccessError) : Kinds where
  presented := presented
  granted := false
  forbidden := error.status = 403
  rejected := error.status = 401 && error.code = "unauthenticated"
  failed := error.status = 500 || error.status = 503

theorem ofRefusal_of_rejects {error : AccessError} (rejects : AccessError.Rejects error)
    (presented : Bool) : ofRefusal presented error = ⟨presented, false, false, true, false⟩ := by
  cases rejects <;> rfl

theorem ofRefusal_of_undecided {error : AccessError} (undecided : AccessError.Undecided error)
    (presented : Bool) : ofRefusal presented error = ⟨presented, false, false, false, true⟩ := by
  cases undecided <;> rfl

/-- The decisions that an exchange of some kinds takes. -/
def BookedBy (kinds : Kinds) (records : Records) : Prop :=
  records.count (.authentication, .allowed) + records.count (.authentication, .denied) +
      records.count (.authentication, .failed) = kinds.presented.toNat ∧
    records.count (.authorization, .allowed) + records.count (.authorization, .denied) +
      records.count (.authorization, .failed) = records.count (.authentication, .allowed) ∧
    records.count (.authorization, .allowed) = kinds.granted.toNat ∧
    records.count (.authorization, .denied) = kinds.forbidden.toNat ∧
    records.count (.authentication, .denied) = kinds.rejected.toNat ∧
    records.count (.authentication, .failed) + records.count (.authorization, .failed) =
      kinds.failed.toNat

instance decidableBookedBy (kinds : Kinds) (records : Records) :
    Decidable (kinds.BookedBy records) :=
  inferInstanceAs (Decidable (_ ∧ _))

end Kinds

namespace Exchange

variable {exchange : Exchange}

theorem presented_of_ok (guarded : exchange.guarded = true) {token : String}
    (found : bearerToken exchange.visit.headers = .ok token) : exchange.presented = true := by
  rw [presented, guarded, found]
  rfl

theorem presented_of_error {error : AccessError}
    (missing : bearerToken exchange.visit.headers = .error error) : exchange.presented = false := by
  rw [presented, missing]
  exact Bool.and_false _

theorem kinds_of_refusal {error : AccessError}
    (status : exchange.response.status = error.status)
    (body : exchange.response.body = some error.body) :
    exchange.kinds = .ofRefusal exchange.presented error := by
  have code : exchange.response.errorCode? = some error.code := by
    rw [Response.errorCode?, body]
    rfl
  have ungranted : exchange.granted = false := by
    rw [granted, status, decide_eq_false (AccessError.status_ne_ok error), Bool.and_false]
  simp only [kinds, ungranted, forbidden, rejected, failed, status, code, Option.some.injEq,
    Kinds.ofRefusal]

end Exchange

/-- The records of some decisions tell what was asked and answered. -/
structure Booked (exchanges : List Exchange) (records : Records) : Prop where
  presented : records.count (.authentication, .allowed) + records.count (.authentication, .denied) +
    records.count (.authentication, .failed) = exchanges.countP Exchange.presented
  accepted : records.count (.authorization, .allowed) + records.count (.authorization, .denied) +
    records.count (.authorization, .failed) = records.count (.authentication, .allowed)
  granted : records.count (.authorization, .allowed) = exchanges.countP Exchange.granted
  forbidden : records.count (.authorization, .denied) = exchanges.countP Exchange.forbidden
  rejected : records.count (.authentication, .denied) = exchanges.countP Exchange.rejected
  failed : records.count (.authentication, .failed) + records.count (.authorization, .failed) =
    exchanges.countP Exchange.failed

namespace Booked

theorem nothing : Booked [] [] := ⟨rfl, rfl, rfl, rfl, rfl, rfl⟩

theorem append {exchanges later : List Exchange} {records laterRecords : Records}
    (booked : Booked exchanges records) (bookedLater : Booked later laterRecords) :
    Booked (exchanges ++ later) (records ++ laterRecords) := by
  obtain ⟨presented, accepted, granted, forbidden, rejected, failed⟩ := booked
  obtain ⟨presented', accepted', granted', forbidden', rejected', failed'⟩ := bookedLater
  constructor <;> simp only [List.count_append, List.countP_append] <;> omega

variable {access : AccessControl} {moment : Moment} {rule : AccessRule} {exchange : Exchange}
  {route : Route} {result : Except AccessError Claims} {records : Records}

theorem of_kinds {kinds : Kinds} (same : exchange.kinds = kinds)
    (fits : kinds.BookedBy records) : Booked [exchange] records := by
  subst same
  have counted : ∀ kind : Exchange → Bool, [exchange].countP kind = (kind exchange).toNat := by
    intro kind
    cases held : kind exchange <;> simp [held]
  obtain ⟨presented, accepted, granted, forbidden, rejected, failed⟩ := fits
  exact {
    presented := presented.trans (counted Exchange.presented).symm
    accepted := accepted
    granted := granted.trans (counted Exchange.granted).symm
    forbidden := forbidden.trans (counted Exchange.forbidden).symm
    rejected := rejected.trans (counted Exchange.rejected).symm
    failed := failed.trans (counted Exchange.failed).symm }

theorem of_passage (guarded : exchange.guarded = true)
    (passage : Passage access moment rule exchange.visit.headers result records)
    (status : exchange.response.status = (route.reply result).status)
    (body : exchange.response.body = (route.reply result).body) :
    Booked [exchange] records := by
  cases passage with
  | unnamed missing =>
      have kinds := Exchange.kinds_of_refusal status body
      rw [Exchange.presented_of_error missing] at kinds
      rcases error_of_bearerToken missing with rfl | rfl
      · exact .of_kinds kinds (by decide)
      · exact .of_kinds kinds (by decide)
  | unauthenticated found refused =>
      have kinds := Exchange.kinds_of_refusal status body
      rw [Exchange.presented_of_ok guarded found] at kinds
      rcases AccessControl.error_of_authenticateAt refused with rejects | undecided
      · rw [Kinds.ofRefusal_of_rejects rejects] at kinds
        rw [rejects.outcome_eq]
        exact .of_kinds kinds (by decide)
      · rw [Kinds.ofRefusal_of_undecided undecided] at kinds
        rw [undecided.outcome_eq]
        exact .of_kinds kinds (by decide)
  | unauthorized found accepted refused =>
      have kinds := Exchange.kinds_of_refusal status body
      rw [Exchange.presented_of_ok guarded found] at kinds
      rcases AccessControl.error_of_authorize refused with rfl | undecided
      · exact .of_kinds kinds (by cases rule <;> decide)
      · rw [Kinds.ofRefusal_of_undecided undecided] at kinds
        rw [undecided.outcome_eq]
        exact .of_kinds kinds (by decide)
  | admitted found accepted allowed =>
      have presented := Exchange.presented_of_ok guarded found
      have shown : exchange.response.status = 200 := status
      have kinds : exchange.kinds = ⟨true, true, false, false, false⟩ := by
        simp only [Exchange.kinds, Exchange.granted, Exchange.forbidden, Exchange.rejected,
          Exchange.failed, presented, guarded, shown]
        rfl
      exact .of_kinds kinds (by decide)

theorem of_unguarded (unguarded : exchange.guarded = false)
    (status : exchange.response.status = 200 ∨ exchange.response.status = 404) :
    Booked [exchange] [] := by
  have kinds : exchange.kinds = ⟨false, false, false, false, false⟩ := by
    simp only [Exchange.kinds, Exchange.presented, Exchange.granted, Exchange.forbidden,
      Exchange.rejected, Exchange.failed, unguarded]
    rcases status with status | status
    · rw [status]
      rfl
    · rw [status]
      rfl
  exact .of_kinds kinds (by decide)

end Booked

namespace Session

variable (session : Session)

theorem booked_respond (visit : Visit) :
    ∃ records, (session.respond visit).2 = session.service.recordAll records ∧
      Booked [⟨session.now, visit, (session.respond visit).1⟩] records := by
  rcases Route.guarded_or_unguarded visit.path with ⟨route, rule, guarded, located, path⟩ |
    ⟨unguarded, notSelf, notRestricted⟩
  · obtain ⟨result, records, passage, answered⟩ := session.respond_guarded guarded located
    rw [answered]
    refine ⟨records, rfl, .of_passage ?_ passage rfl rfl⟩
    rcases path with path | path <;> simp [Exchange.guarded, path]
  · obtain ⟨answer, answered, status⟩ := session.respond_unguarded unguarded
    rw [answered]
    refine ⟨[], rfl, .of_unguarded ?_ ?_⟩
    · simp [Exchange.guarded, notSelf, notRestricted]
    · rw [Visit.response, status]
      split
      · exact Or.inl rfl
      · exact Or.inr rfl

/-- Just the decisions are counted that the exchanges are booked by. -/
theorem booked_run (events : List Event) :
    ∃ records, (session.run events).service.counters =
        (session.service.recordAll records).counters ∧
      Booked (session.exchanges events) records := by
  refine session.exists_records_run (fun _ => True) .nothing Booked.append (fun _ _ _ => trivial) ?_
    trivial events
  intro session visit _
  exact session.booked_respond visit

end Session

/-- The counts of decisions, modulo the size of a word, as the exchanges account for them. -/
structure Accounts (counters : Counters) (exchanges : List Exchange) : Prop where
  presented : counters.count .authentication .allowed + counters.count .authentication .denied +
    counters.count .authentication .failed = UInt64.ofNat (exchanges.countP Exchange.presented)
  accepted : counters.count .authorization .allowed + counters.count .authorization .denied +
    counters.count .authorization .failed = counters.count .authentication .allowed
  granted : counters.count .authorization .allowed =
    UInt64.ofNat (exchanges.countP Exchange.granted)
  forbidden : counters.count .authorization .denied =
    UInt64.ofNat (exchanges.countP Exchange.forbidden)
  rejected : counters.count .authentication .denied =
    UInt64.ofNat (exchanges.countP Exchange.rejected)
  failed : counters.count .authentication .failed + counters.count .authorization .failed =
    UInt64.ofNat (exchanges.countP Exchange.failed)

/-- From a service that has counted nothing, the counts account for every request, whatever comes in
between and however the policies decide; and requests for pages that are not guarded count nothing. -/
theorem counters_account_for_requests (access : AccessControl) (policyTimeout : Option Nat)
    (stopping : Bool) (now : Instant) (events : List Event) :
    let session : Session := ⟨⟨access, {}, policyTimeout, stopping⟩, now⟩
    Accounts (session.run events).service.counters (session.exchanges events) ∧
      ∀ (other : Session) (visit : Visit), visit.path ≠ "/v1/me" → visit.path ≠ "/v1/test/auth" →
        (other.step (.request visit)).service.counters = other.service.counters := by
  intro session
  refine ⟨?accounts, ?unguarded⟩
  case accounts =>
    obtain ⟨records, counted, booked⟩ := session.booked_run events
    have count : ∀ stage outcome, (session.run events).service.counters.count stage outcome =
        UInt64.ofNat (records.count (stage, outcome)) := by
      intro stage outcome
      rw [counted, Service.recordAll, Counters.count_foldl_record]
      cases stage <;> cases outcome <;> exact UInt64.zero_add _
    constructor
    · rw [count, count, count, ← booked.presented, UInt64.ofNat_add, UInt64.ofNat_add]
    · rw [count, count, count, count, ← booked.accepted, UInt64.ofNat_add, UInt64.ofNat_add]
    · rw [count, booked.granted]
    · rw [count, booked.forbidden]
    · rw [count, booked.rejected]
    · rw [count, count, ← booked.failed, UInt64.ofNat_add]
  case unguarded =>
    intro other visit notSelf notRestricted
    have unguarded := Route.unguarded_of_ne notSelf notRestricted
    obtain ⟨_, answered, _⟩ := other.respond_unguarded unguarded
    simp only [Session.step, answered]
    split <;> rfl

end Http

end Turnstile
