set_option autoImplicit false

/-! Octet strings and the numbers written in them, most significant octet
first. -/

namespace Turnstile

abbrev Bytes := List UInt8

namespace Bytes

def toNat (bytes : Bytes) : Nat :=
  bytes.foldl (fun value byte => value * 256 + byte.toNat) 0

def ofNat : (size : Nat) → Nat → Bytes
  | 0, _ => []
  | size + 1, value => ofNat size (value / 256) ++ [UInt8.ofNat value]

def bitSize (value : Nat) : Nat := if value = 0 then 0 else Nat.log2 value + 1

def octetSize (value : Nat) : Nat := (bitSize value + 7) / 8

def ofNatMinimal (value : Nat) : Bytes := ofNat (octetSize value) value

theorem ofNat_length (size value : Nat) : (ofNat size value).length = size := by
  induction size generalizing value with
  | zero => rfl
  | succ size inductionHypothesis => simp [ofNat, inductionHypothesis]

theorem toNat_append_singleton (bytes : Bytes) (byte : UInt8) :
    toNat (bytes ++ [byte]) = toNat bytes * 256 + byte.toNat := by
  simp [toNat, List.foldl_append]

theorem toNat_ofNat (size value : Nat) : toNat (ofNat size value) = value % Nat.pow 256 size := by
  induction size generalizing value with
  | zero => simp [ofNat, toNat, Nat.mod_one]
  | succ size inductionHypothesis =>
      have last : (UInt8.ofNat value).toNat = value % 256 := by simp
      rw [ofNat, toNat_append_singleton, inductionHypothesis, last]
      show _ = value % (Nat.pow 256 size * 256)
      rw [Nat.mul_comm (Nat.pow 256 size) 256, Nat.mod_mul]
      omega

end Bytes

end Turnstile
