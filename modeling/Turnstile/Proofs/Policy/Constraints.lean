import Turnstile.Policy.DecodeVerify
import Turnstile.Proofs.Credential.RoundTrip
import Turnstile.Proofs.Json.Members
import Turnstile.Proofs.Rsa.Trusted
set_option autoImplicit false

/-! Errors of the token check. The constraints are read, and their key is taken out, before the
token is looked at: what is wrong with them is an error for every token alike, and nothing about a
token is ever one. -/

namespace Turnstile.Policy

/-! ### Reading of constraints -/

namespace Constraints

def textKeys : List String := ["cert", "iss", "aud"]

/-- A member that may stand among constraints. -/
inductive Fits : String × Json → Prop where
  | text {key : String} (known : key ∈ textKeys) (text : String) : Fits (key, .string text)
  | time (nanos : Number) : Fits ("time", .number nanos)

/-- The value under a key. Where the key is written more than once, the last value counts. -/
def written? (key : String) (members : List (String × Json)) : Option Json :=
  Json.lookup? key members.reverse

def text? (key : String) (members : List (String × Json)) : Option String :=
  (written? key members).bind Json.string?

def time? (members : List (String × Json)) : Option Binary64 :=
  (written? "time" members).bind Json.binary64?

/-- Constraints with the values that members give them. -/
def withMembers (start : Constraints) (members : List (String × Json)) : Constraints where
  cert := (text? "cert" members).getD start.cert
  issuer := (text? "iss" members).or start.issuer
  audience := (text? "aud" members).or start.audience
  time := (time? members).or start.time

theorem written?_cons (key : String) (first : String × Json) (rest : List (String × Json)) :
    written? key (first :: rest) = (written? key rest).or (written? key [first]) := by
  rw [written?, List.reverse_cons, Json.lookup?_append]
  rfl

theorem mem_of_written? {key : String} {value : Json} {members : List (String × Json)}
    (found : written? key members = some value) : (key, value) ∈ members :=
  List.mem_reverse.mp (Json.mem_of_lookup? found)

theorem written?_perm {members others : List (String × Json)}
    (once : (members.map Prod.fst).Nodup) (same : members.Perm others) (key : String) :
    written? key members = written? key others := by
  have reversed : members.reverse.Perm others.reverse :=
    (List.reverse_perm members).trans (same.trans (List.reverse_perm others).symm)
  have onceReversed : (members.reverse.map Prod.fst).Nodup :=
    ((List.reverse_perm members).map Prod.fst).nodup_iff.mpr once
  exact Json.lookup?_perm onceReversed reversed key

section Fitting

variable {members : List (String × Json)} (fits : ∀ member ∈ members, Fits member)

include fits

theorem string?_of_written? {key : String} {value : Json} (known : key ∈ textKeys)
    (found : written? key members = some value) : ∃ text, value = .string text := by
  cases fits _ (mem_of_written? found) with
  | text _ text => exact ⟨text, rfl⟩
  | time nanos => exact absurd known (by decide)

theorem binary64?_of_written? {value : Json} (found : written? "time" members = some value) :
    ∃ nanos, value = .number nanos := by
  cases fits _ (mem_of_written? found) with
  | text known _ => exact absurd known (by decide)
  | time nanos => exact ⟨nanos, rfl⟩

theorem text?_cons {key : String} (known : key ∈ textKeys) (first : String × Json) :
    text? key (first :: members) = (text? key members).or (text? key [first]) := by
  rw [text?, text?, text?, written?_cons]
  cases found : written? key members with
  | none => rfl
  | some value =>
      obtain ⟨text, rfl⟩ := string?_of_written? fits known found
      rfl

theorem time?_cons (first : String × Json) :
    time? (first :: members) = (time? members).or (time? [first]) := by
  rw [time?, time?, time?, written?_cons]
  cases found : written? "time" members with
  | none => rfl
  | some value =>
      obtain ⟨nanos, rfl⟩ := binary64?_of_written? fits found
      rfl

theorem withMembers_cons (start : Constraints) (first : String × Json) :
    start.withMembers (first :: members) = (start.withMembers [first]).withMembers members := by
  rw [withMembers, withMembers, withMembers, text?_cons fits (by decide), text?_cons fits (by decide),
    text?_cons fits (by decide), time?_cons fits, Option.getD_or, Option.or_assoc, Option.or_assoc,
    Option.or_assoc]

end Fitting

theorem add_of_fits (start : Constraints) {key : String} {value : Json} (fits : Fits (key, value)) :
    start.add key value = .ok (start.withMembers [(key, value)]) := by
  cases fits with
  | text known text =>
      simp only [textKeys, List.mem_cons, List.not_mem_nil, or_false] at known
      rcases known with rfl | rfl | rfl <;> rfl
  | time nanos => rfl

theorem string?_of_not_fits {key : String} {value : Json} (known : key ∈ textKeys)
    (unfit : ¬ Fits (key, value)) : value.string? = Option.none := by
  cases value with
  | string text => exact absurd (Fits.text known text) unfit
  | _ => rfl

theorem binary64?_of_not_fits {value : Json} (unfit : ¬ Fits ("time", value)) :
    value.binary64? = Option.none := by
  cases value with
  | number nanos => exact absurd (Fits.time nanos) unfit
  | _ => rfl

/-- What is wrong with a member that does not fit is told by its key. -/
def memberFault (key : String) : ConstraintFault :=
  if key ∈ textKeys then .notString key
  else if key = "time" then .timeNotNumber
  else .unknown key

theorem add_of_not_fits (start : Constraints) {key : String} {value : Json}
    (unfit : ¬ Fits (key, value)) : start.add key value = .error (memberFault key) := by
  unfold memberFault
  by_cases known : key ∈ textKeys
  · have noText := string?_of_not_fits known unfit
    rw [if_pos known]
    simp only [textKeys, List.mem_cons, List.not_mem_nil, or_false] at known
    rcases known with rfl | rfl | rfl <;> simp [add, noText]
  · rw [if_neg known]
    simp only [textKeys, List.mem_cons, List.not_mem_nil, or_false, not_or] at known
    rw [add, if_neg known.1, if_neg known.2.1, if_neg known.2.2]
    by_cases time : key = "time"
    · subst time
      rw [if_pos rfl, if_pos rfl, binary64?_of_not_fits unfit]
    · rw [if_neg time, if_neg time]

theorem addAll_of_fits (start : Constraints) {members : List (String × Json)}
    (fits : ∀ member ∈ members, Fits member) :
    start.addAll members = .ok (start.withMembers members) := by
  induction members generalizing start with
  | nil => rfl
  | cons first rest ih =>
      have fitsRest : ∀ member ∈ rest, Fits member :=
        fun member inside => fits member (List.mem_cons_of_mem _ inside)
      rw [addAll, add_of_fits start (fits _ List.mem_cons_self), withMembers_cons fitsRest]
      exact ih _ fitsRest

theorem exists_addAll_error (start : Constraints) {members : List (String × Json)}
    {member : String × Json} (inside : member ∈ members) (unfit : ¬ Fits member) :
    ∃ fault, start.addAll members = .error fault := by
  induction members generalizing start with
  | nil => cases inside
  | cons first rest ih =>
      rw [addAll]
      cases added : start.add first.1 first.2 with
      | error fault => exact ⟨fault, rfl⟩
      | ok next =>
          rcases List.mem_cons.mp inside with here | later
          · have failed := add_of_not_fits start (here ▸ unfit)
            rw [failed] at added
            cases added
          · exact ih next later

theorem ofJson_object (members : List (String × Json)) :
    ofJson (.object members) = (none.addAll members).bind fun wanted =>
      if wanted.cert = "" then .error .certMissing else .ok wanted := by
  simp only [ofJson, Json.object?]
  cases none.addAll members with
  | error fault => rfl
  | ok wanted =>
      simp only [bind, Except.bind]
      split <;> rfl

/-- Constraints are read exactly of the objects whose members all fit and that name a key. -/
theorem ofJson_eq_ok_iff {constraints : Json} {wanted : Constraints} :
    ofJson constraints = .ok wanted ↔
      ∃ members, constraints = .object members ∧ (∀ member ∈ members, Fits member) ∧
        none.withMembers members = wanted ∧ wanted.cert ≠ "" := by
  constructor
  · intro read
    cases constraints with
    | object members =>
        rw [ofJson_object] at read
        have fits : ∀ member ∈ members, Fits member := by
          intro member inside
          by_contra unfit
          obtain ⟨fault, failed⟩ := exists_addAll_error none inside unfit
          rw [failed] at read
          cases read
        rw [addAll_of_fits none fits, Except.bind] at read
        split at read
        · cases read
        · rename_i filled
          cases read
          exact ⟨members, rfl, fits, rfl, filled⟩
    | null => cases read
    | bool _ => cases read
    | number _ => cases read
    | string _ => cases read
    | array _ => cases read
  · rintro ⟨members, rfl, fits, rfl, filled⟩
    rw [ofJson_object, addAll_of_fits none fits, Except.bind, if_neg filled]

theorem ofJson_eq_ok_iff_of_perm {members others : List (String × Json)} {wanted : Constraints}
    (once : (members.map Prod.fst).Nodup) (same : members.Perm others) :
    ofJson (.object members) = .ok wanted ↔ ofJson (.object others) = .ok wanted := by
  have alike : none.withMembers members = none.withMembers others := by
    simp only [withMembers, text?, time?, written?_perm once same]
  rw [ofJson_eq_ok_iff, ofJson_eq_ok_iff]
  constructor
  · rintro ⟨_, form, fits, read, filled⟩
    cases form
    exact ⟨others, rfl, fun member inside => fits member (same.mem_iff.mpr inside),
      alike ▸ read, filled⟩
  · rintro ⟨_, form, fits, read, filled⟩
    cases form
    exact ⟨members, rfl, fun member inside => fits member (same.mem_iff.mp inside),
      alike.trans read, filled⟩

/-! ### Constraints that make no sense -/

/-- The ways in which constraints make no sense. -/
inductive Senseless : Json → Prop where
  | notObject {value : Json} (other : value.object? = Option.none) : Senseless value
  | unknownKey {members : List (String × Json)} {key : String} {value : Json}
      (inside : (key, value) ∈ members) (unknown : key ∉ ["cert", "iss", "aud", "time"]) :
      Senseless (.object members)
  | notText {members : List (String × Json)} {key : String} {value : Json}
      (inside : (key, value) ∈ members) (known : key ∈ ["cert", "iss", "aud"])
      (other : value.string? = Option.none) : Senseless (.object members)
  | notNumber {members : List (String × Json)} {value : Json}
      (inside : ("time", value) ∈ members) (other : value.binary64? = Option.none) :
      Senseless (.object members)
  | noCert {members : List (String × Json)} (absent : written? "cert" members = Option.none) :
      Senseless (.object members)
  | emptyCert {members : List (String × Json)}
      (empty : written? "cert" members = some (.string "")) : Senseless (.object members)
  | badCert {members : List (String × Json)} {cert : String} {fault : Rsa.TrustFault}
      (written : written? "cert" members = some (.string cert))
      (unusable : Rsa.trustedOctets (Utf8.encode cert) = .error fault) :
      Senseless (.object members)

/-- Constraints as they are read, with the octets of the key that they trust. -/
def admitted (constraints : Json) : Except ConstraintFault (Constraints × Bytes) := do
  let wanted ← ofJson constraints
  match Rsa.trustedOctets (Utf8.encode wanted.cert) with
  | .ok octets => return (wanted, octets)
  | .error fault => throw (.cert fault)

theorem admitted_eq_ok_iff {constraints : Json} {wanted : Constraints} {octets : Bytes} :
    admitted constraints = .ok (wanted, octets) ↔
      ofJson constraints = .ok wanted ∧
        Rsa.trustedOctets (Utf8.encode wanted.cert) = .ok octets := by
  unfold admitted
  constructor
  · intro found
    cases read : ofJson constraints with
    | error fault =>
        rw [read] at found
        cases found
    | ok wanted =>
        simp only [read, bind, Except.bind] at found
        split at found
        · rename_i trusted
          cases found
          exact ⟨rfl, trusted⟩
        · cases found
  · rintro ⟨read, trusted⟩
    simp only [read, bind, Except.bind, trusted]
    rfl

theorem not_fits_of_unknown {key : String} {value : Json}
    (unknown : key ∉ ["cert", "iss", "aud", "time"]) : ¬ Fits (key, value) := by
  intro fits
  cases fits with
  | text known _ => exact unknown (List.mem_append_left ["time"] known)
  | time _ => exact unknown (by decide)

theorem senseless_of_not_fits {members : List (String × Json)} {key : String} {value : Json}
    (inside : (key, value) ∈ members) (unfit : ¬ Fits (key, value)) :
    Senseless (.object members) := by
  by_cases known : key ∈ textKeys
  · exact .notText inside known (string?_of_not_fits known unfit)
  · by_cases time : key = "time"
    · subst time
      exact .notNumber inside (binary64?_of_not_fits unfit)
    · refine .unknownKey inside fun listed => ?_
      rcases List.mem_append.mp (show key ∈ textKeys ++ ["time"] from listed) with text | last
      · exact known text
      · exact time (List.mem_singleton.mp last)

theorem exists_admitted_iff (constraints : Json) :
    (∃ found, admitted constraints = .ok found) ↔ ¬ Senseless constraints := by
  constructor
  · rintro ⟨⟨wanted, octets⟩, found⟩ senseless
    obtain ⟨read, trusted⟩ := admitted_eq_ok_iff.mp found
    obtain ⟨members, rfl, fits, rfl, filled⟩ := ofJson_eq_ok_iff.mp read
    cases senseless with
    | notObject other => cases other
    | unknownKey inside unknown => exact not_fits_of_unknown unknown (fits _ inside)
    | notText inside known other =>
        cases fits _ inside with
        | text _ _ => cases other
        | time _ => exact absurd known (by decide)
    | notNumber inside other =>
        cases fits _ inside with
        | text known _ => exact absurd known (by decide)
        | time _ => cases other
    | noCert absent =>
        apply filled
        rw [withMembers, text?, absent]
        rfl
    | emptyCert empty =>
        apply filled
        rw [withMembers, text?, empty]
        rfl
    | badCert written unusable =>
        rw [withMembers, text?, written] at trusted
        exact absurd (trusted.symm.trans unusable) (by simp)
  · intro sensible
    cases constraints with
    | object members =>
        have fits : ∀ member ∈ members, Fits member := by
          intro member inside
          by_contra unfit
          exact sensible (senseless_of_not_fits inside unfit)
        cases written : written? "cert" members with
        | none => exact absurd (.noCert written) sensible
        | some value =>
            obtain ⟨cert, rfl⟩ := string?_of_written? fits (by decide) written
            have wanted : (none.withMembers members).cert = cert := by
              rw [withMembers, text?, written]
              rfl
            by_cases empty : cert = ""
            · exact absurd (.emptyCert (empty ▸ written)) sensible
            · cases trusted : Rsa.trustedOctets (Utf8.encode cert) with
              | error fault => exact absurd (.badCert written trusted) sensible
              | ok octets =>
                  refine ⟨(none.withMembers members, octets), admitted_eq_ok_iff.mpr ⟨?_, ?_⟩⟩
                  · exact ofJson_eq_ok_iff.mpr ⟨members, rfl, fits, rfl, wanted ▸ empty⟩
                  · rw [wanted, trusted]
    | null => exact absurd (.notObject rfl) sensible
    | bool _ => exact absurd (.notObject rfl) sensible
    | number _ => exact absurd (.notObject rfl) sensible
    | string _ => exact absurd (.notObject rfl) sensible
    | array _ => exact absurd (.notObject rfl) sensible

theorem exists_admitted_error_iff (constraints : Json) :
    (∃ fault, admitted constraints = .error fault) ↔ Senseless constraints := by
  constructor
  · rintro ⟨fault, failed⟩
    by_contra sensible
    obtain ⟨found, read⟩ := (exists_admitted_iff constraints).mpr sensible
    rw [failed] at read
    cases read
  · intro senseless
    cases read : admitted constraints with
    | error fault => exact ⟨fault, rfl⟩
    | ok found => exact absurd senseless ((exists_admitted_iff constraints).mp ⟨found, read⟩)

theorem admitted_eq_ok_iff_of_perm {members others : List (String × Json)}
    {found : Constraints × Bytes} (once : (members.map Prod.fst).Nodup)
    (same : members.Perm others) :
    admitted (.object members) = .ok found ↔ admitted (.object others) = .ok found := by
  obtain ⟨wanted, octets⟩ := found
  rw [admitted_eq_ok_iff, admitted_eq_ok_iff, ofJson_eq_ok_iff_of_perm once same]

/-- The second that a token is checked for. -/
def seconds (wanted : Constraints) (now : Int) : Binary64 :=
  match wanted.time with
  | some nanos => secondsOf nanos
  | .none => Binary64.ofInt now

/-- What is found of a token under constraints that are admitted. -/
def verdict (wanted : Constraints) (octets : Bytes) (now : Int) (token : String) : Verdict :=
  (signedParts? (Rsa.PublicKey.decode? octets) token).filter fun parts =>
    satisfies wanted (wanted.seconds now) parts.2

end Constraints

/-! ### The check -/

theorem publicPem_ne_empty (pair : KeyPair) : pair.publicPem ≠ "" := by
  intro empty
  have trusted := Rsa.trustedOctets_publicPem pair
  rw [empty] at trusted
  cases trusted

/-- The token decides about the verdict alone: whether there is one is decided before. -/
theorem decodeVerify_eq (now : Int) (token : String) (constraints : Json) :
    decodeVerify now token constraints =
      (Constraints.admitted constraints).map fun found => found.1.verdict found.2 now token := by
  rw [decodeVerify, Constraints.admitted]
  cases Constraints.ofJson constraints with
  | error fault => rfl
  | ok wanted =>
      simp only [bind, Except.bind]
      cases Rsa.trustedOctets (Utf8.encode wanted.cert) with
      | error fault => rfl
      | ok octets =>
          simp only [pure, Except.pure, Except.map, Constraints.verdict, Constraints.seconds]
          cases signedParts? (Rsa.PublicKey.decode? octets) token with
          | none => rfl
          | some parts =>
              rw [Option.filter_some]
              exact (apply_ite Except.ok _ _ _).symm

theorem decodeVerify_eq_ok_iff {now : Int} {token : String} {constraints : Json}
    {verdict : Verdict} :
    decodeVerify now token constraints = .ok verdict ↔
      ∃ wanted octets, Constraints.admitted constraints = .ok (wanted, octets) ∧
        wanted.verdict octets now token = verdict := by
  rw [decodeVerify_eq]
  cases Constraints.admitted constraints with
  | error fault => simp [Except.map]
  | ok found =>
      constructor
      · intro checked
        exact ⟨found.1, found.2, rfl, Except.ok.inj checked⟩
      · rintro ⟨wanted, octets, same, rfl⟩
        cases same
        rfl

theorem decodeVerify_eq_error_iff {now : Int} {token : String} {constraints : Json}
    {fault : ConstraintFault} :
    decodeVerify now token constraints = .error fault ↔
      Constraints.admitted constraints = .error fault := by
  rw [decodeVerify_eq]
  cases Constraints.admitted constraints with
  | error other => simp [Except.map]
  | ok found => simp [Except.map]

/-- No token makes the check fail: it fails for all tokens, and then with one fault and so one
message, exactly if the constraints make no sense. The order in which keys are written matters
neither for that nor for what is found of a token. -/
theorem decodeVerify_faults_alike (constraints : Json) :
    (∀ now otherNow token otherToken fault, decodeVerify now token constraints = .error fault ↔
      decodeVerify otherNow otherToken constraints = .error fault) ∧
    (∀ now token, (∃ fault, decodeVerify now token constraints = .error fault) ↔
      Constraints.Senseless constraints) ∧
    ∀ members others, constraints = .object members → (members.map Prod.fst).Nodup →
      members.Perm others →
        (Constraints.Senseless (.object members) ↔ Constraints.Senseless (.object others)) ∧
        ∀ now token verdict, decodeVerify now token (.object members) = .ok verdict ↔
          decodeVerify now token (.object others) = .ok verdict := by
  refine ⟨fun _ _ _ _ _ => ?_, fun now token => ?_, fun members others _ once same => ⟨?_, ?_⟩⟩
  · rw [decodeVerify_eq_error_iff, decodeVerify_eq_error_iff]
  · simp only [decodeVerify_eq_error_iff]
    exact Constraints.exists_admitted_error_iff constraints
  · apply not_iff_not.mp
    rw [← Constraints.exists_admitted_iff, ← Constraints.exists_admitted_iff]
    exact exists_congr fun _ => Constraints.admitted_eq_ok_iff_of_perm once same
  · intro now token verdict
    simp only [decodeVerify_eq_ok_iff, Constraints.admitted_eq_ok_iff_of_perm once same]

/-- Without the dots of its parts a token does not pass, in whatever order its constraints are
written, and with a key that is no text it fails like every other. -/
theorem decodeVerify_faults_alike_example :
    let pair : KeyPair := ⟨"main", exampleKey, exampleKey_check⟩
    let time : String × Json := ("time", .number (.int 5))
    let cert : String × Json := ("cert", .string pair.publicPem)
    [time, cert].Perm [cert, time] ∧
      decodeVerify 0 "" (.object [cert, time]) = .ok none ∧
      decodeVerify 0 "" (.object [time, cert]) = .ok none ∧
      ¬ Constraints.Senseless (.object [time, cert]) ∧
      decodeVerify 7 "a.b.c" (.object [("cert", .bool true)]) = .error (.notString "cert") := by
  intro pair time cert
  have once : ([time, cert].map Prod.fst).Nodup := by decide
  have swapped : [time, cert].Perm [cert, time] := .swap _ _ _
  have fits : ∀ member ∈ [cert, time], Constraints.Fits member := by
    intro member inside
    rcases List.mem_cons.mp inside with rfl | inside
    · exact .text (by decide) _
    · cases List.mem_singleton.mp inside
      exact .time _
  have read : Constraints.ofJson (.object [cert, time]) =
      .ok ⟨pair.publicPem, none, none, some (Number.int 5).toBinary64⟩ :=
    Constraints.ofJson_eq_ok_iff.mpr ⟨_, rfl, fits, rfl, publicPem_ne_empty pair⟩
  have admitted := Constraints.admitted_eq_ok_iff.mpr ⟨read, Rsa.trustedOctets_publicPem pair⟩
  have rejected : decodeVerify 0 "" (.object [cert, time]) = .ok none :=
    decodeVerify_eq_ok_iff.mpr ⟨_, _, admitted, rfl⟩
  obtain ⟨_, fails, ordered⟩ := decodeVerify_faults_alike (.object [time, cert])
  have alike := (ordered _ _ rfl once swapped).2 0 "" none
  refine ⟨swapped, rejected, alike.mpr rejected, fun senseless => ?_, ?_⟩
  · obtain ⟨fault, failed⟩ := (fails 0 "").mpr senseless
    rw [alike.mpr rejected] at failed
    cases failed
  · obtain ⟨shared, _⟩ := decodeVerify_faults_alike (.object [("cert", .bool true)])
    exact (shared 0 7 "" "a.b.c" _).mp rfl

end Turnstile.Policy
