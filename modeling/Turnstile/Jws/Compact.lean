import Turnstile.Base64
import Turnstile.Text.Line
import Turnstile.Text.Utf8
set_option autoImplicit false

/-! The compact form of a signed token: header, payload and signature, each in
base 64 that is safe inside a URL, with dots between them. The signature covers
the text of the first two parts. -/

namespace Turnstile.Jws

structure Compact where
  header : List Char
  payload : List Char
  signature : List Char
  deriving DecidableEq, Repr

namespace Compact

def ofText? (token : String) : Option Compact :=
  match Text.splitOn '.' token.toList with
  | [header, payload, signature] => some ⟨header, payload, signature⟩
  | _ => none

def signedText (compact : Compact) : List Char := compact.header ++ '.' :: compact.payload

def signedOctets (compact : Compact) : Bytes := Utf8.encodeChars compact.signedText

def render (compact : Compact) : String :=
  String.ofList (compact.signedText ++ '.' :: compact.signature)

def isComplete (compact : Compact) : Bool :=
  !compact.header.isEmpty && !compact.payload.isEmpty && !compact.signature.isEmpty

def headerOctets? (compact : Compact) : Option Bytes := Base64.decodeUrl? compact.header

def payloadOctets? (compact : Compact) : Option Bytes := Base64.decodeUrl? compact.payload

def signatureOctets? (compact : Compact) : Option Bytes := Base64.decodeUrl? compact.signature

theorem ofText?_render {compact : Compact} (header : '.' ∉ compact.header)
    (payload : '.' ∉ compact.payload) (signature : '.' ∉ compact.signature) :
    ofText? compact.render = some compact := by
  have parts : Text.splitOn '.' (compact.signedText ++ '.' :: compact.signature) =
      [compact.header, compact.payload, compact.signature] := by
    rw [signedText, List.append_assoc, List.cons_append, Text.splitOn_append _ _ _ header,
      Text.splitOn_append _ _ _ payload, Text.splitOn_eq_singleton _ _ signature]
  simp [ofText?, render, parts]

end Compact

end Turnstile.Jws
