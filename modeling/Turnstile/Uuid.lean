import Turnstile.Bytes
import Turnstile.Text.Quoted
set_option autoImplicit false

/-! Unique names out of random octets, as texts of thirty-six characters. -/

namespace Turnstile.Uuid

/-- Mark octets as random: a version in the seventh and a variant in the ninth. -/
def mark (octets : Bytes) : Bytes :=
  octets.mapIdx fun index octet =>
    if index = 6 then octet % 16 + 0x40
    else if index = 8 then octet % 64 + 0x80
    else octet

def digits (octet : UInt8) : List Char :=
  [Text.hexDigit (octet.toNat / 16), Text.hexDigit (octet.toNat % 16)]

def group (octets : Bytes) : String := String.ofList (octets.flatMap digits)

def render (octets : Bytes) : String :=
  let octets := mark octets
  "-".intercalate
    [group (octets.take 4), group ((octets.drop 4).take 2), group ((octets.drop 6).take 2),
      group ((octets.drop 8).take 2), group (octets.drop 10)]

end Turnstile.Uuid
