import Turnstile.Proofs.Http.Passage
set_option autoImplicit false

/-! The life of a service. Requests for pages come one after the other. Between them the clock is
moved and the service may begin to stop; it may also begin to stop while it answers one. -/

namespace Turnstile.Http

/-- A request for a page, and how it goes: the second on the wall clock, the paces of the two
evaluations that it may need and, if the service begins to stop meanwhile, how often the request has
looked for that in vain. -/
structure Visit where
  path : String
  headers : Headers
  freshId : String
  wallSeconds : Int
  authentication : Pace
  authorization : Pace
  stopsAfter : Option Nat

namespace Visit

/-- The service as it is found by the look that comes after some others. -/
def look (visit : Visit) (service : Service) (earlier : Nat) : Service :=
  if visit.stopsAfter.any (· ≤ earlier) then service.stop else service

/-- Every evaluation looks at the service twice, before it begins and when it has ended. -/
def moment (visit : Visit) (service : Service) (now : Instant) : Moment where
  now := now
  authentication := ⟨(visit.look service 0).standing visit.authentication.before,
    (visit.look service 1).standing visit.authentication.after, visit.wallSeconds⟩
  authorization := ⟨(visit.look service 2).standing visit.authorization.before,
    (visit.look service 3).standing visit.authorization.after, visit.wallSeconds⟩

/-- The response that carries an answer to the visitor. -/
def response (visit : Visit) (answered : Answer) : Response where
  status := answered.status
  contentType := answered.body.map fun _ => "application/json"
  allow := none
  requestId := (visit.headers.first? requestIdHeader).getD (Utf8.encode visit.freshId)
  body := answered.body

/-- Whoever looks at a service that is stopping has given up, whatever the pace. -/
theorem standing_look (visit : Visit) {service : Service} (stopping : service.stopping = true)
    (earlier elapsed : Nat) :
    (visit.look service earlier).standing elapsed = .cancelled := by
  have found : (visit.look service earlier).stopping = true := by
    unfold look
    split
    · rfl
    · exact stopping
  rw [Service.standing, found]
  rfl

end Visit

/-- A request that was answered, when the clock was read for it, and the response. -/
structure Exchange where
  now : Instant
  visit : Visit
  response : Response

/-- A service and what its clock shows. -/
structure Session where
  service : Service
  now : Instant

inductive Event where
  | request (visit : Visit)
  | clock (now : Instant)
  | stop

namespace Event

/-- The service begins to stop, alone or while it answers. -/
def stops : Event → Bool
  | .request visit => visit.stopsAfter.isSome
  | .clock _ => false
  | .stop => true

end Event

namespace Session

def respond (session : Session) (visit : Visit) : Response × Service :=
  Http.respond session.service (visit.moment session.service session.now) visit.freshId
    (getRequest visit.path visit.headers)

def step (session : Session) (event : Event) : Session :=
  match event with
  | .request visit =>
      let answered := (session.respond visit).2
      { session with service := if event.stops then answered.stop else answered }
  | .clock now => { session with now := now }
  | .stop => { session with service := session.service.stop }

def run (session : Session) (events : List Event) : Session := events.foldl step session

def exchange? (session : Session) : Event → Option Exchange
  | .request visit => some ⟨session.now, visit, (session.respond visit).1⟩
  | .clock _ => none
  | .stop => none

/-- What was asked and answered in the course of some events. -/
def exchanges : Session → List Event → List Exchange
  | _, [] => []
  | session, event :: rest =>
      (session.exchange? event).toList ++ (session.step event).exchanges rest

variable (session : Session)

theorem run_cons (event : Event) (rest : List Event) :
    session.run (event :: rest) = (session.step event).run rest := by
  rfl

/-! ### What an answer does to the service -/

/-- A visit to a guarded page ends as some way past its rule does, and counts what that counts. -/
theorem respond_guarded {visit : Visit} {route : Route} {rule : AccessRule}
    (guarded : route.rule? = some rule) (located : Route.ofPath? visit.path = some route) :
    ∃ result records,
      Passage session.service.access (visit.moment session.service session.now) rule visit.headers
        result records ∧
      session.respond visit =
        (visit.response (route.reply result), session.service.recordAll records) := by
  obtain ⟨result, records, passage, answered⟩ := answer_guarded guarded located session.service
    (visit.moment session.service session.now) visit.headers
  refine ⟨result, records, passage, ?_⟩
  rw [respond, Http.respond, answered]
  rfl

theorem respond_unguarded {visit : Visit}
    (unguarded : (Route.ofPath? visit.path).bind Route.rule? = none) :
    ∃ answered, session.respond visit = (visit.response answered, session.service) ∧
      answered.status = if (Route.ofPath? visit.path).isSome then 200 else 404 := by
  obtain ⟨answered, same, status⟩ := answer_unguarded unguarded session.service
    (visit.moment session.service session.now) visit.headers
  refine ⟨answered, ?_, status⟩
  rw [respond, Http.respond, same]
  rfl

theorem exists_records (visit : Visit) :
    ∃ records, (session.respond visit).2 = session.service.recordAll records := by
  cases guarded : (Route.ofPath? visit.path).bind Route.rule? with
  | none =>
      obtain ⟨_, same, _⟩ := session.respond_unguarded guarded
      exact ⟨[], by rw [same]; rfl⟩
  | some rule =>
      obtain ⟨route, located, guarded⟩ := Option.bind_eq_some_iff.mp guarded
      obtain ⟨_, records, _, answered⟩ := session.respond_guarded guarded located
      exact ⟨records, by rw [answered]⟩

theorem access_step (event : Event) :
    (session.step event).service.access = session.service.access := by
  cases event with
  | request visit =>
      obtain ⟨records, counted⟩ := session.exists_records visit
      simp only [step, counted]
      split <;> rfl
  | clock now => rfl
  | stop => rfl

theorem access_run (events : List Event) :
    (session.run events).service.access = session.service.access := by
  induction events generalizing session with
  | nil => rfl
  | cons event rest ih => rw [run_cons, ih, access_step]

/-- A service is stopping once it has begun to. -/
theorem stopping_step (event : Event) :
    (session.step event).service.stopping = (session.service.stopping || event.stops) := by
  cases event with
  | request visit =>
      obtain ⟨records, counted⟩ := session.exists_records visit
      simp only [step, counted]
      cases (Event.request visit).stops with
      | true => exact (Bool.or_true _).symm
      | false => exact (Bool.or_false _).symm
  | clock now => exact (Bool.or_false session.service.stopping).symm
  | stop => exact (Bool.or_true session.service.stopping).symm

theorem stopping_run (events : List Event) :
    (session.run events).service.stopping = (session.service.stopping || events.any Event.stops) := by
  induction events generalizing session with
  | nil => exact (Bool.or_false _).symm
  | cons event rest ih => rw [run_cons, ih, stopping_step, List.any_cons, Bool.or_assoc]

/-- What is counted in the course of some events. What holds of each answer and the decisions that
it counts, and of two courses together whenever it holds of both, holds of a whole course. -/
theorem exists_records_run (Kept : Session → Prop) {Books : List Exchange → Records → Prop}
    (nothing : Books [] [])
    (append : ∀ {exchanges later : List Exchange} {records laterRecords : Records},
      Books exchanges records → Books later laterRecords →
        Books (exchanges ++ later) (records ++ laterRecords))
    (kept : ∀ (session : Session) (event : Event), Kept session → Kept (session.step event))
    (answered : ∀ (session : Session) (visit : Visit), Kept session →
      ∃ records, (session.respond visit).2 = session.service.recordAll records ∧
        Books [⟨session.now, visit, (session.respond visit).1⟩] records)
    (begins : Kept session) (events : List Event) :
    ∃ records,
      (session.run events).service.counters = (session.service.recordAll records).counters ∧
        Books (session.exchanges events) records := by
  induction events generalizing session with
  | nil => exact ⟨[], rfl, nothing⟩
  | cons event rest ih =>
      obtain ⟨later, countedLater, booksLater⟩ :=
        ih (session.step event) (kept session event begins)
      rw [run_cons, exchanges, countedLater]
      cases event with
      | request visit =>
          obtain ⟨records, counted, books⟩ := answered session visit begins
          refine ⟨records ++ later, ?_, append books booksLater⟩
          have stepped : (session.step (.request visit)).service.counters =
              (session.service.recordAll records).counters := by
            simp only [step, counted]
            split <;> rfl
          simp only [Service.recordAll, stepped, List.foldl_append]
      | clock now => exact ⟨later, rfl, booksLater⟩
      | stop => exact ⟨later, rfl, booksLater⟩

end Session

end Turnstile.Http
