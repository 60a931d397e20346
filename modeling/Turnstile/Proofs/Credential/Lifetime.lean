import Turnstile.Proofs.Credential.Issued
import Turnstile.Proofs.Credential.Signing
set_option autoImplicit false

/-! Issuing on request. The lifetime is judged before the key is looked for, and where keys can sign
there is no third thing that can go wrong. What is issued runs from the second of issuing to a later
one. -/

namespace Turnstile

/-- A lifetime for which nothing is issued at an instant: it is empty, longer than a span can be, ends
behind the calendar, or ends in the second it starts in. -/
inductive Instant.Refuses (now : Instant) (lifetime : Nat) : Prop where
  | empty (zero : lifetime = 0)
  | overlong (beyond : 0x7fffffffffffffff * 1000000 < lifetime)
  | endless (past : (lastSecond + 1) * billion ≤ now.sinceEpoch + lifetime)
  | momentary (same : (now.sinceEpoch + lifetime) / billion = now.seconds)

/-- Claims that are issued for a request are those it asks for, and they hold for a whole number of
seconds that is the whole part of the lifetime or one more. -/
structure CredentialRequest.Mints (request : CredentialRequest) (now : Instant)
    (identifier : String) (claims : Claims) : Prop extends request.Grants now claims where
  tokenId : claims.tokenId = some identifier
  startsNow : claims.issuedAt.toInt = now.sinceEpoch / billion ∧ claims.notBefore = claims.issuedAt
  lasting : claims.issuedAt.toInt < claims.expires.toInt
  span : claims.expires.toInt - claims.issuedAt.toInt = request.lifetime / billion ∨
    claims.expires.toInt - claims.issuedAt.toInt = request.lifetime / billion + 1
  audienceWritten : ∀ value, ("aud", value) ∈ claims.toMembers ↔
    ∃ audience, request.audience = some audience ∧ value = .string audience
  distinct : claims.roles.Nodup

theorem Claims.mem_toMembers_audience {claims : Claims} {value : Json} :
    ("aud", value) ∈ claims.toMembers ↔
      ∃ audience, claims.audience = some audience ∧ value = .string audience := by
  obtain ⟨subject, issuer, audience, issuedAt, notBefore, expires, tokenId, roles⟩ := claims
  cases audience <;> cases tokenId <;> simp [toMembers, optionalMember]

namespace CredentialRequest

variable {request : CredentialRequest} {now : Instant} {identifier : String} {claims : Claims}

theorem claims?_eq_none_iff (noLeap : now.nanos < billion) :
    request.claims? now identifier = none ↔
      request.lifetime = 0 ∨ 0x7fffffffffffffff * 1000000 < request.lifetime ∨
        (Instant.lastSecond + 1) * billion ≤ now.sinceEpoch + request.lifetime := by
  unfold claims?
  by_cases zero : request.lifetime = 0
  · simp [zero]
  · rw [if_neg zero]
    cases bounded : Duration.ofNanoseconds? request.lifetime with
    | none =>
        have beyond := Duration.ofNanoseconds?_eq_none_iff.mp bounded
        exact iff_of_true rfl (Or.inr (Or.inl beyond))
    | some span =>
        have within : ¬ 0x7fffffffffffffff * 1000000 < request.lifetime := by
          rw [← Duration.ofNanoseconds?_eq_none_iff, bounded]
          exact Option.some_ne_none span
        have forward := Duration.nanoseconds_of_ofNanoseconds? bounded
        have past : now.add? span = none ↔
            (Instant.lastSecond + 1) * billion ≤ now.sinceEpoch + span.nanoseconds :=
          Instant.add?_eq_none_iff noLeap (by omega)
        rw [forward] at past
        simp only [zero, within, false_or, ← past]
        cases added : now.add? span <;> simp [Claims.issue?, added]

theorem momentary_iff_of_claims? (noLeap : now.nanos < billion)
    (made : request.claims? now identifier = some claims) :
    claims.expires.toInt ≤ claims.issuedAt.toInt ↔
      (now.sinceEpoch + request.lifetime) / billion = now.seconds := by
  have grants := grants_of_claims? noLeap made
  have floor := Instant.seconds_eq_sinceEpoch noLeap
  rw [grants.expires, grants.issuedAt]
  unfold billion at *
  omega

theorem refuses_iff_of_claims? (noLeap : now.nanos < billion)
    (made : request.claims? now identifier = some claims) :
    now.Refuses request.lifetime ↔ claims.expires.toInt ≤ claims.issuedAt.toInt := by
  have present : request.claims? now identifier ≠ none := by
    rw [made]
    exact Option.some_ne_none claims
  have fits := mt (claims?_eq_none_iff noLeap).mpr present
  rw [momentary_iff_of_claims? noLeap made]
  constructor
  · intro refused
    cases refused with
    | empty zero => exact absurd (Or.inl zero) fits
    | overlong beyond => exact absurd (Or.inr (Or.inl beyond)) fits
    | endless past => exact absurd (Or.inr (Or.inr past)) fits
    | momentary same => exact same
  · exact .momentary

theorem tokenId_of_claims? (made : request.claims? now identifier = some claims) :
    claims.tokenId = some identifier := by
  unfold claims? at made
  split at made
  · cases made
  · obtain ⟨_, _, made⟩ := Option.bind_eq_some_iff.mp made
    obtain ⟨_, _, made⟩ := Option.bind_eq_some_iff.mp made
    cases made
    rfl

theorem mints_of_claims? (noLeap : now.nanos < billion)
    (made : request.claims? now identifier = some claims)
    (lasting : claims.issuedAt.toInt < claims.expires.toInt) :
    request.Mints now identifier claims := by
  have grants := grants_of_claims? noLeap made
  have floor := Instant.seconds_eq_sinceEpoch noLeap
  refine { grants with
    tokenId := tokenId_of_claims? made
    startsNow := ?startsNow
    lasting := lasting
    span := ?span
    audienceWritten := ?audienceWritten
    distinct := ?distinct }
  case startsNow =>
    refine ⟨grants.issuedAt.trans floor, Int64.toInt_inj.mp ?_⟩
    rw [grants.notBefore, grants.issuedAt]
  case span =>
    rw [grants.expires, grants.issuedAt, floor]
    unfold billion
    omega
  case audienceWritten =>
    intro value
    rw [Claims.mem_toMembers_audience, grants.audience]
  case distinct =>
    rw [grants.roles, ← Role.withoutRepeats_eq_eraseDups]
    exact Role.nodup_withoutRepeats [] request.roles

end CredentialRequest

namespace KeyStore

/-- What can come of a request to a store whose keys can sign. -/
inductive Issues (keys : KeyStore) (now : Instant) (identifier : String)
    (request : CredentialRequest) : Except IssueError String → Prop where
  | refused (refused : now.Refuses request.lifetime) :
      Issues keys now identifier request (.error .lifetime)
  | unknown (fit : ¬ now.Refuses request.lifetime) (unknown : request.kid ∉ keys.kids) :
      Issues keys now identifier request (.error (.key (.unknown request.kid)))
  | minted {token : String} {pair : KeyPair} {claims : Claims}
      (fit : ¬ now.Refuses request.lifetime) (found : keys.get? request.kid = some pair)
      (signed : pair.signClaims claims = .ok token)
      (mints : request.Mints now identifier claims) :
      Issues keys now identifier request (.ok token)

variable {keys : KeyStore} {now : Instant}

theorem issues_issue (signing : keys.CanSign) (noLeap : now.nanos < billion) (identifier : String)
    (request : CredentialRequest) :
    keys.Issues now identifier request (keys.issue now identifier request) := by
  unfold issue
  cases made : request.claims? now identifier with
  | none =>
      rcases (CredentialRequest.claims?_eq_none_iff noLeap).mp made with zero | beyond | past
      · exact .refused (.empty zero)
      · exact .refused (.overlong beyond)
      · exact .refused (.endless past)
  | some claims =>
      have refuses := CredentialRequest.refuses_iff_of_claims? noLeap made
      by_cases brief : claims.expires.toInt ≤ claims.issuedAt.toInt
      · simp only [issueClaims, if_pos brief]
        exact .refused (refuses.mpr brief)
      · have fit : ¬ now.Refuses request.lifetime := mt refuses.mp brief
        have lasting : claims.issuedAt.toInt < claims.expires.toInt := Int.not_le.mp brief
        cases found : keys.get? request.kid with
        | none =>
            have got : keys.get request.kid = .error (.unknown request.kid) := by rw [get, found]
            simp only [issueClaims, if_neg brief, got]
            exact .unknown fit (get?_eq_none_iff.mp found)
        | some pair =>
            obtain ⟨token, signed⟩ := signing pair (mem_of_get? found).1 claims
            simp only [issueClaims_eq_of_get (get_eq_ok_iff.mpr found) lasting, signed]
            exact .minted fit found signed (CredentialRequest.mints_of_claims? noLeap made lasting)

/-- Outside leap seconds, a store whose keys can sign refuses a request exactly for its lifetime, and
otherwise exactly for a key that it does not have. All else is issued, with claims for just that
lifetime. -/
theorem issue_refused_or_minted (signing : keys.CanSign) (noLeap : now.nanos < billion)
    (identifier : String) (request : CredentialRequest) :
    (keys.issue now identifier request = .error .lifetime ↔ now.Refuses request.lifetime) ∧
    (keys.issue now identifier request = .error (.key (.unknown request.kid)) ↔
      ¬ now.Refuses request.lifetime ∧ request.kid ∉ keys.kids) ∧
    ((∃ token, keys.issue now identifier request = .ok token) ↔
      ¬ now.Refuses request.lifetime ∧ request.kid ∈ keys.kids) ∧
    ∀ token, keys.issue now identifier request = .ok token → ∃ claims pair compact,
      request.Mints now identifier claims ∧ Credential.Vouched keys pair token claims ∧
      Credential.kid token = .ok request.kid ∧ Jws.Compact.ofText? token = some compact ∧
      compact.payloadOctets? = some (Utf8.encodeChars claims.toJson.render) := by
  have outcome := issues_issue signing noLeap identifier request
  generalize keys.issue now identifier request = result at outcome
  cases outcome with
  | refused refused => simp [refused]
  | unknown fit unknown => simp [fit, unknown]
  | @minted token pair claims fit found signed mints =>
      obtain ⟨member, named⟩ := mem_of_get? found
      have known : request.kid ∈ keys.kids := named ▸ List.mem_map_of_mem member
      refine ⟨by simp [fit], by simp [known], by simp [fit, known], ?_⟩
      rintro _ ⟨⟩
      obtain ⟨vouched, asked⟩ := vouched_of_signClaims found signed
      obtain ⟨compact, read, _, payload⟩ := octets_of_signClaims signed
      exact ⟨claims, pair, compact, mints, vouched, asked, read, payload⟩

end KeyStore

/-- Half a second past a whole one. -/
def halfPast : Instant := ⟨1700000000, 500000000, by decide⟩

/-- A request for a second and a half, with a role that is asked for twice. -/
def briefRequest : CredentialRequest :=
  ⟨"main", "service", "issuer", some "api", [.user, .admin, .user], 1500000000⟩

theorem not_refuses_briefRequest : ¬ halfPast.Refuses briefRequest.lifetime := by
  intro refused
  cases refused with
  | empty zero => exact absurd zero (by decide)
  | overlong beyond => exact absurd beyond (by decide)
  | endless past => exact absurd past (by decide)
  | momentary same => exact absurd same (by decide)

/-- A second and a half makes two whole seconds here, and half a second makes none. -/
theorem issue_refused_or_minted_example :
    halfPast.nanos < billion ∧ (KeyStore.ofPair soundPair).CanSign ∧
      (∃ token claims, (KeyStore.ofPair soundPair).issue halfPast "1" briefRequest = .ok token ∧
        briefRequest.Mints halfPast "1" claims ∧ claims.expires.toInt = 1700000002 ∧
        claims.roles = [.user, .admin]) ∧
      (KeyStore.ofPair soundPair).issue halfPast "1" { briefRequest with lifetime := 499999999 } =
        .error .lifetime ∧
      (KeyStore.ofPair soundPair).issue halfPast "1" { briefRequest with kid := "other" } =
        .error (.key (.unknown "other")) := by
  have noLeap : halfPast.nanos < billion := by decide
  have kids : (KeyStore.ofPair soundPair).kids = ["main"] := rfl
  obtain ⟨_, _, issued, minted⟩ :=
    KeyStore.issue_refused_or_minted canSign_soundPair noLeap "1" briefRequest
  obtain ⟨refused, _⟩ := KeyStore.issue_refused_or_minted canSign_soundPair noLeap "1"
    { briefRequest with lifetime := 499999999 }
  obtain ⟨_, unknown, _⟩ := KeyStore.issue_refused_or_minted canSign_soundPair noLeap "1"
    { briefRequest with kid := "other" }
  refine ⟨noLeap, canSign_soundPair, ?_, refused.mpr (.momentary (by decide)), ?_⟩
  · obtain ⟨token, made⟩ := issued.mpr ⟨not_refuses_briefRequest, by rw [kids]; decide⟩
    obtain ⟨claims, _, _, mints, _⟩ := minted token made
    refine ⟨token, claims, made, mints, ?_, ?_⟩
    · rw [mints.expires]
      decide
    · rw [mints.roles]
      decide
  · exact unknown.mpr ⟨not_refuses_briefRequest, by rw [kids]; decide⟩

end Turnstile
