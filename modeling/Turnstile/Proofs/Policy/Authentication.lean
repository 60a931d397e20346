import Turnstile.Policy.Engine
import Turnstile.Proofs.Policy.Rules
import Turnstile.Proofs.Policy.Texts
set_option autoImplicit false

/-! What the embedded authentication policy decides. It accepts a credential exactly if
the credential passes the token check under the key, issuer and time handed in and the issuer
is trusted; the token check is the only part of it that can fail. -/

namespace Turnstile.Policy

namespace Embedded

/-- The constraints under which the authentication policy checks a token. -/
def tokenConstraints (publicPem issuer : String) (now : Instant) : Json :=
  .object [("cert", .string publicPem), ("iss", .string issuer),
    ("time", .number (.int now.unixNanos))]

/-- Whether a token passes the check that the authentication policy makes. A verdict that
policies cannot read is a fault. -/
def tokenCheck (wallSeconds : Int) (now : Instant) (publicPem token issuer : String) :
    Except Fault Bool :=
  match decodeVerify wallSeconds token (tokenConstraints publicPem issuer now) with
  | .error cause => .error (.tokenCheck cause)
  | .ok verdict =>
      match Value.enter? verdict.toJson with
      | none => .error .engine
      | some _ => .ok verdict.isSome

end Embedded

/-- What the authentication policy is told, as policies see it. -/
def Engine.authenticationValue (publicPem token issuer : String) (now : Instant) : Value :=
  .object [(.string "ISS", .string issuer), (.string "Key", .string publicPem),
    (.string "Time", .number (.ofInt now.unixNanos)), (.string "Token", .string token)]

theorem enter?_authenticationInput (publicPem token issuer : String) (now : Instant) :
    Value.enter? (.object (Engine.authenticationInput publicPem token issuer now)) =
      some (Engine.authenticationValue publicPem token issuer now) := by
  simp only [Value.enter?, Json.reread?, Engine.authenticationInput, Json.depth,
    Json.depthOfMembers, Json.depthLimit, Json.rereadNumbers?, Json.rereadMembers?,
    Number.reread?, Option.map_some]
  rfl

theorem number?_unixNanos (now : Instant) :
    (Exact.ofInt now.unixNanos).number? = some (.int now.unixNanos) := by
  have bounds : -0x8000000000000000 ≤ now.unixNanos ∧ now.unixNanos ≤ 0x7fffffffffffffff := by
    unfold Instant.unixNanos
    by_cases fits : Instant.clamp64 (now.seconds * billion + now.nanos) =
        now.seconds * billion + now.nanos
    · simp only [if_pos fits]
      rw [← fits]
      unfold Instant.clamp64
      omega
    · simp only [if_neg fits]
      unfold Instant.clamp64
      omega
  refine Exact.number?_ofInt bounds.1 ?_
  unfold largestWord
  omega

namespace Embedded

private def constraintsValue (publicPem issuer : String) (now : Instant) : Value :=
  .object [(.string "cert", .string publicPem), (.string "iss", .string issuer),
    (.string "time", .number (.ofInt now.unixNanos))]

private theorem toJson_constraintsValue (publicPem issuer : String) (now : Instant) :
    (constraintsValue publicPem issuer now).toJson = tokenConstraints publicPem issuer now := by
  simp only [constraintsValue, Value.toJson, Value.toMembers, number?_unixNanos, Option.map_some,
    Option.getD_some]
  rfl

private theorem callDecodeVerify_eq (wallSeconds : Int) (now : Instant)
    (publicPem token issuer : String) :
    callDecodeVerify wallSeconds (.string token) (constraintsValue publicPem issuer now) =
      match decodeVerify wallSeconds token (tokenConstraints publicPem issuer now) with
      | .error cause => .fault (.tokenCheck cause)
      | .ok verdict => .expect (Value.enter? verdict.toJson) := by
  have reread : (tokenConstraints publicPem issuer now).reread? =
      some (tokenConstraints publicPem issuer now) := by
    simp only [tokenConstraints, Json.reread?, Json.depth, Json.depthOfMembers, Json.depthLimit,
      Json.rereadNumbers?, Json.rereadMembers?, Number.reread?, Option.map_some]
    rfl
  rw [callDecodeVerify, toJson_constraintsValue, reread]
  rfl

private theorem enter?_verdict {verdict : Verdict} {entered : Value}
    (enters : Value.enter? verdict.toJson = some entered) :
    ∃ header payload, entered = .array [.bool verdict.isSome, header, payload] := by
  have items : ∃ first second : List (String × Json),
      verdict.toJson = .array [.bool verdict.isSome, .object first, .object second] := by
    cases verdict with
    | none => exact ⟨[], [], rfl⟩
    | some parts => exact ⟨parts.1, parts.2, rfl⟩
  obtain ⟨first, second, shape⟩ := items
  rw [shape] at enters
  obtain ⟨read, reread, value⟩ := Option.bind_eq_some_iff.mp enters
  rw [Json.reread?] at reread
  split at reread
  · simp only [Json.rereadNumbers?, Json.rereadItems?] at reread
    cases headerRead : Json.rereadMembers? first with
    | none => simp [headerRead] at reread
    | some header =>
        cases payloadRead : Json.rereadMembers? second with
        | none => simp [headerRead, payloadRead] at reread
        | some payload =>
            simp only [headerRead, payloadRead, Option.map_some, Option.some.injEq] at reread
            subst reread
            obtain ⟨items, itemsRead, rfl⟩ := Option.map_eq_some_iff.mp value
            obtain ⟨_, _, valid, partsRead, rfl⟩ := ofItems?_cons_eq_some_iff.mp itemsRead
            obtain ⟨header, _, _, lastRead, rfl⟩ := ofItems?_cons_eq_some_iff.mp partsRead
            obtain ⟨payload, _, _, nothing, rfl⟩ := ofItems?_cons_eq_some_iff.mp lastRead
            cases valid
            cases nothing
            exact ⟨header, payload, rfl⟩
  · cases reread

section Rules

variable (wallSeconds : Int) (now : Instant) (publicPem token issuer : String)

private def judgingScope (depth : Nat) : Scope :=
  authenticationModule.scope wallSeconds depth
    ⟨Engine.authenticationValue publicPem token issuer now, []⟩

private theorem judgingScope_input (depth : Nat) :
    (judgingScope wallSeconds now publicPem token issuer depth).world.input =
      Engine.authenticationValue publicPem token issuer now := by
  rw [judgingScope, Module.scope_world]

private theorem evalAll_constants (scope : Scope) (locals : Locals) (texts : List String) :
    evalAll scope locals (texts.map fun text => .constant (.string text)) =
      .value (texts.map .string) := by
  induction texts with
  | nil => rfl
  | cons text rest ih =>
      rw [List.map_cons, evalAll, ih, Expr.eval]
      rfl

private theorem solveAll_issuerIsTrusted (depth : Nat) (locals : Locals) :
    solveAll (judgingScope wallSeconds now publicPem token issuer (depth + 1))
        [issuerIsTrusted] locals =
      .ok (if trustedIssuers.contains issuer then [locals] else []) := by
  have handed : (handedIn "ISS").eval
      (judgingScope wallSeconds now publicPem token issuer (depth + 1)) locals =
        .value (.string issuer) :=
    eval_handedIn _ _ (by rw [judgingScope_input]; rfl)
  have trusted : (Expr.document (authenticationPackage ++ ["trusted_issuers"])).eval
      (judgingScope wallSeconds now publicPem token issuer (depth + 1)) locals =
        .value (Value.setOf (trustedIssuers.map .string)) := by
    rw [Expr.eval, judgingScope, Module.scope_world, Module.scope_document,
      World.replacement?_unchanged]
    refine (document_rule authenticationModule (constantRule "trusted_issuers"
      (.set (trustedIssuers.map fun issuer => .constant (.string issuer)))) _ rfl).trans ?_
    apply eval_constantRule
    rw [Expr.eval, evalAll_constants]
    rfl
  have evaluated : (Expr.within (handedIn "ISS")
      (.document (authenticationPackage ++ ["trusted_issuers"]))).eval
        (judgingScope wallSeconds now publicPem token issuer (depth + 1)) locals =
          .value (.bool (trustedIssuers.contains issuer)) := by
    rw [Expr.eval, handed, trusted, membership, Value.has_setOf_string]
  rw [issuerIsTrusted, solveAll_holds _ _ _ _ evaluated, solveAll_nil]
  cases trustedIssuers.contains issuer <;> rfl

private theorem eval_tokenCall (depth : Nat) (locals : Locals) :
    (Expr.call "io.jwt.decode_verify"
        [handedIn "Token",
          .object [(.constant (.string "cert"), handedIn "Key"),
            (.constant (.string "iss"), handedIn "ISS"),
            (.constant (.string "time"), handedIn "Time")]]).eval
        (judgingScope wallSeconds now publicPem token issuer depth) locals =
      callDecodeVerify wallSeconds (.string token) (constraintsValue publicPem issuer now) := by
  have token' : (handedIn "Token").eval
      (judgingScope wallSeconds now publicPem token issuer depth) locals =
        .value (.string token) := eval_handedIn _ _ (by rw [judgingScope_input]; rfl)
  have key : (handedIn "Key").eval
      (judgingScope wallSeconds now publicPem token issuer depth) locals =
        .value (.string publicPem) := eval_handedIn _ _ (by rw [judgingScope_input]; rfl)
  have named : (handedIn "ISS").eval
      (judgingScope wallSeconds now publicPem token issuer depth) locals =
        .value (.string issuer) := eval_handedIn _ _ (by rw [judgingScope_input]; rfl)
  have time : (handedIn "Time").eval
      (judgingScope wallSeconds now publicPem token issuer depth) locals =
        .value (.number (.ofInt now.unixNanos)) :=
    eval_handedIn _ _ (by rw [judgingScope_input]; rfl)
  simp only [Expr.eval, evalAll, evalMembers, token', key, named, time, Outcome.andThen,
    Outcome.map]
  rw [judgingScope, Module.scope_now]
  rfl

private theorem solveAll_tokenPasses (depth : Nat) :
    (solveAll (judgingScope wallSeconds now publicPem token issuer (depth + 1))
        (tokenPasses ++ [issuerIsTrusted]) []).map List.isEmpty =
      (tokenCheck wallSeconds now publicPem token issuer).map
        fun passes => !(passes && trustedIssuers.contains issuer) := by
  have call := eval_tokenCall wallSeconds now publicPem token issuer (depth + 1) []
  rw [callDecodeVerify_eq] at call
  simp only [tokenPasses, List.cons_append, List.nil_append]
  rw [solveAll, Statement.solve, call, tokenCheck]
  cases decodeVerify wallSeconds token (tokenConstraints publicPem issuer now) with
  | error cause => rfl
  | ok verdict =>
      cases enters : Value.enter? verdict.toJson with
      | none =>
          simp only [enters, Outcome.expect]
          rfl
      | some entered =>
          obtain ⟨header, payload, shape⟩ := enter?_verdict enters
          have evaluated : ∀ scope : Scope, (Expr.operation .equal (.name "valid")
              (.constant (.bool true))).eval scope
                [(wildcard "" 42, payload), (wildcard "" 44, header), ("valid", .bool verdict.isSome)] =
              .value (.bool verdict.isSome) := by
            intro scope
            cases verdict.isSome <;> rfl
          simp only [enters, Outcome.expect, shape, Pattern.solve, solveItems, Outcome.andThen,
            Outcome.toExcept, Except.map, Option.toList, collectSolutions,
            solveAll_holds _ _ _ _ (evaluated _), solveAll_issuerIsTrusted]
          cases verdict.isSome with
          | false => rfl
          | true => cases trustedIssuers.contains issuer <;> rfl

end Rules

theorem scanned_authentication :
    Token.scan? (authentication.queryText Engine.authenticationRule).toList =
      some (queryTokens (authenticationPackage ++ [Engine.authenticationRule])) := by
  decide +kernel

theorem names_authentication :
    ∀ field ∈ authenticationPackage ++ [Engine.authenticationRule],
      Dialect.plain.name? field = some field := by
  decide +kernel

theorem queryRows_authentication (wallSeconds : Int) (now : Instant)
    (publicPem token issuer : String) :
    authentication.queryRows (authentication.queryText Engine.authenticationRule) wallSeconds
        (Engine.authenticationInput publicPem token issuer now) =
      (tokenCheck wallSeconds now publicPem token issuer).map fun passes =>
        [[(resultBinding, .bool (passes && trustedIssuers.contains issuer))]] := by
  rw [queryRows_of_path authenticationModule _ wallSeconds rfl scanned_authentication
    names_authentication (enter?_authenticationInput publicPem token issuer now)]
  have path : authenticationPackage ++ [Engine.authenticationRule] =
      authenticationModule.package ++
        (flag "auth" [tokenPasses ++ [issuerIsTrusted]]).path := rfl
  have solutions := solveAll_tokenPasses wallSeconds now publicPem token issuer 1
  rw [judgingScope] at solutions
  rw [path, document_rule _ (flag "auth" [tokenPasses ++ [issuerIsTrusted]]) _ rfl,
    eval_flag, show authenticationModule.rules.length = 1 + 1 from rfl]
  simp only [collectSolutions]
  cases checked : tokenCheck wallSeconds now publicPem token issuer with
  | error cause =>
      rw [checked] at solutions
      cases solved : solveAll (authenticationModule.scope wallSeconds (1 + 1)
          ⟨Engine.authenticationValue publicPem token issuer now, []⟩)
          (tokenPasses ++ [issuerIsTrusted]) [] with
      | error other =>
          rw [solved] at solutions
          injection solutions with same
          rw [same]
          rfl
      | ok found =>
          rw [solved] at solutions
          cases solutions
  | ok passes =>
      rw [checked] at solutions
      cases solved : solveAll (authenticationModule.scope wallSeconds (1 + 1)
          ⟨Engine.authenticationValue publicPem token issuer now, []⟩)
          (tokenPasses ++ [issuerIsTrusted]) [] with
      | error other =>
          rw [solved] at solutions
          cases solutions
      | ok found =>
          rw [solved] at solutions
          injection solutions with same
          simp only [List.append_nil, same, Bool.not_not]
          rfl

end Embedded

/-- The embedded authentication policy decides by the token check and the issuer. -/
theorem Engine.evaluateAuthentication_embedded (context : Context) (now : Instant)
    (publicPem token issuer : String) :
    Engine.embedded.evaluateAuthentication context now publicPem token issuer =
      match context.before.check with
      | .error error => .error error
      | .ok () =>
          match Embedded.tokenCheck context.wallSeconds now publicPem token issuer with
          | .error cause => .error (.eval ("authentication: " ++ cause.message))
          | .ok passes =>
              match context.after.check with
              | .error error => .error error
              | .ok () => .ok (passes && Embedded.trustedIssuers.contains issuer) := by
  simp only [evaluateAuthentication, embedded, PreparedQuery.decide, PreparedQuery.eval,
    PreparedQuery.run, PreparedQuery.ofRule, Embedded.queryRows_authentication]
  cases context.before.check with
  | error error => rfl
  | ok _ =>
      cases Embedded.tokenCheck context.wallSeconds now publicPem token issuer with
      | error cause => rfl
      | ok passes =>
          cases context.after.check with
          | error error => rfl
          | ok _ => rfl

end Turnstile.Policy
