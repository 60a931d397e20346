set_option autoImplicit false

/-! Sets of code points, written as increasing ranges. -/

namespace Turnstile.Text

def coveredBy (point : Nat) : List (Nat × Nat) → Bool
  | [] => false
  | (low, high) :: rest =>
      if point < low then false else if point ≤ high then true else coveredBy point rest

end Turnstile.Text
