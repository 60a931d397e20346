import Turnstile.Jws.Verify
set_option autoImplicit false

/-! Which tokens are opened. The checks that a token has to pass, each in its own conjunct. -/

namespace Turnstile.Jws

/-- A payload is given out exactly if the header is an object that names the algorithm, and the
signature verifies under the key. -/
theorem verifiedPayload_eq_ok_iff (algorithm : Algorithm) (key : Option Rsa.PublicKey)
    (compact : Compact) (payload : Bytes) :
    verifiedPayload algorithm key compact = .ok payload ↔
      ∃ header tree hash trusted signature, compact.headerOctets? = some header ∧
        Json.Tree.parse? header = some tree ∧ Header.algorithm? tree = some algorithm ∧
        algorithm.hash? = some hash ∧ key = some trusted ∧
        compact.signatureOctets? = some signature ∧
        Rsa.verifies trusted hash compact.signedOctets signature = true ∧
        compact.payloadOctets? = some payload := by
  unfold verifiedPayload
  constructor
  · intro opened
    split at opened
    · cases opened
    · rename_i header octets
      split at opened
      · cases opened
      · rename_i named found
        obtain ⟨tree, parsed, algorithmOfTree⟩ := Option.bind_eq_some_iff.mp found
        by_cases other : named ≠ algorithm
        · rw [if_pos other] at opened
          cases opened
        · rw [if_neg other] at opened
          have same : named = algorithm := Decidable.not_not.mp other
          split at opened
          · rename_i _ _ _ hash trusted signature hashFound signatureFound
            split at opened
            · rename_i verified
              split at opened
              · rename_i content payloadFound
                cases opened
                exact ⟨header, tree, hash, trusted, signature, octets, parsed,
                  same ▸ algorithmOfTree, hashFound, rfl, signatureFound, verified, payloadFound⟩
              · cases opened
            · cases opened
          · cases opened
  · rintro ⟨header, tree, hash, trusted, signature, octets, parsed, named, hashFound, rfl,
      signatureFound, verified, payloadFound⟩
    simp only [octets, parsed, named, Option.bind_some, ne_eq, not_true_eq_false, if_false,
      hashFound, signatureFound, verified, if_true, payloadFound]

theorem openWith_eq_ok_iff {Payload : Type} (read : Json.Tree → Option Payload)
    (algorithm : Algorithm) (key : Option Rsa.PublicKey) (compact : Compact) (payload : Payload) :
    openWith read algorithm key compact = .ok payload ↔
      ∃ octets tree, verifiedPayload algorithm key compact = .ok octets ∧
        Json.Tree.parse? octets = some tree ∧ read tree = some payload ∧
        hasReadableClaims tree = true := by
  unfold openWith
  constructor
  · intro opened
    split at opened
    · cases opened
    · rename_i octets verified
      split at opened
      · cases opened
      · rename_i tree parsed
        split at opened
        · cases opened
        · rename_i found readOfTree
          split at opened
          · rename_i readable
            cases opened
            exact ⟨octets, tree, verified, parsed, readOfTree, readable⟩
          · cases opened
  · rintro ⟨octets, tree, verified, parsed, readOfTree, readable⟩
    simp only [verified, parsed, readOfTree, readable, if_true]

theorem members_of_hasReadableClaims {tree : Json.Tree} (readable : hasReadableClaims tree = true) :
    ∃ members, tree.members? = some members ∧
      Json.Tree.eachAtMostOnce registeredKeys members = true ∧ hasPlainSubject members = true := by
  unfold hasReadableClaims at readable
  split at readable
  · rename_i written
    obtain ⟨members, named, checks⟩ := (Option.any_eq_true _ _).mp readable
    rw [Bool.and_eq_true] at checks
    exact ⟨members, named, checks⟩
  · cases readable

theorem Header.members_of_algorithm? {tree : Json.Tree} {algorithm : Algorithm}
    (read : algorithm? tree = some algorithm) :
    ∃ members, tree.members? = some members ∧
      Json.Tree.eachAtMostOnce ("alg" :: "jwk" :: textKeys ++ listKeys) members = true ∧
      (members.all fun (key, tree) => isWellTyped key tree) = true ∧
      (memberText? "alg" members).bind Algorithm.ofName? = some algorithm := by
  unfold algorithm? at read
  split at read
  · rename_i written
    obtain ⟨members, named, checked⟩ := Option.bind_eq_some_iff.mp read
    refine ⟨members, named, ?_⟩
    simpa using checked
  · cases read

end Turnstile.Jws
