import Turnstile.Instant
import Turnstile.Role
set_option autoImplicit false

/-! What a credential says about its bearer. Times are whole seconds of 64 bits;
a credential is live from `notBefore` to `expires`, both included, and a leeway
widens that window at both ends. -/

namespace Turnstile

structure Claims where
  subject : String
  issuer : String
  audience : Option String
  issuedAt : Int64
  notBefore : Int64
  expires : Int64
  tokenId : Option String
  roles : List Role
  deriving DecidableEq, Repr

namespace Claims

def saturate (value : Int) : Int64 := Int64.ofInt (Instant.clamp64 value)

/-- Claims that hold from now for a span, unless they would end outside the
calendar. Of a role granted twice the first occurrence counts. -/
def issue? (subject issuer : String) (roles : List Role) (now : Instant) (lifetime : Duration) :
    Option Claims :=
  (now.add? lifetime).map fun expires => {
    subject := subject
    issuer := issuer
    audience := none
    issuedAt := Int64.ofInt now.seconds
    notBefore := Int64.ofInt now.seconds
    expires := Int64.ofInt expires.seconds
    tokenId := none
    roles := Role.withoutRepeats [] roles }

def instantOf? (seconds : Int64) : Option Instant := Instant.ofParts? seconds.toInt 0

def hasRole (claims : Claims) (role : Role) : Bool := claims.roles.contains role

def roleNames (claims : Claims) : List String := claims.roles.map Role.name

def isLiveAt (claims : Claims) (now leeway : Int64) : Bool :=
  decide ((saturate (claims.notBefore.toInt - leeway.toInt)).toInt ≤ now.toInt) &&
    decide (now.toInt ≤ (saturate (claims.expires.toInt + leeway.toInt)).toInt)

def leewayOf (seconds : Nat) : Int64 := saturate seconds

theorem toInt_saturate (value : Int) : (saturate value).toInt = Instant.clamp64 value := by
  have bounds : -0x8000000000000000 ≤ Instant.clamp64 value ∧
      Instant.clamp64 value < 0x8000000000000000 := by
    unfold Instant.clamp64
    omega
  exact Int64.toInt_ofInt_of_le bounds.1 bounds.2

end Claims

end Turnstile
