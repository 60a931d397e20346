import Turnstile.Counters
import Turnstile.Json.Value
set_option autoImplicit false

/-! Counts of decisions as JSON. -/

namespace Turnstile.Counters

def member (counters : Counters) (key : String) (stage : Stage) (outcome : Outcome) :
    String × Json :=
  (key, .number (.int (counters.count stage outcome).toNat))

def toJson (counters : Counters) : Json :=
  .object
    [counters.member "authn_allowed" .authentication .allowed,
      counters.member "authn_denied" .authentication .denied,
      counters.member "authn_failed" .authentication .failed,
      counters.member "authz_allowed" .authorization .allowed,
      counters.member "authz_denied" .authorization .denied,
      counters.member "authz_failed" .authorization .failed]

end Turnstile.Counters
