import Turnstile.Access.Error
import Turnstile.Http.Message
import Turnstile.Text.Blank
set_option autoImplicit false

/-! The token in the headers of a request. Only the first authorization header
counts. -/

namespace Turnstile.Http

def bearerScheme : String := "Bearer "

def tokenOfValue? (value : Bytes) : Option String := do
  let text ← plainText? value
  if !bearerScheme.toList.isPrefixOf text.toList then none
  let token := Text.trimChars (text.toList.drop bearerScheme.toList.length)
  if token.isEmpty then none
  return String.ofList token

def bearerToken (headers : Headers) : Except AccessError String :=
  match headers.first? "authorization" with
  | none => .error .missingHeader
  | some value =>
      match tokenOfValue? value with
      | some token => .ok token
      | none => .error .invalidHeader

end Turnstile.Http
