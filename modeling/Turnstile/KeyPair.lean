import Turnstile.Rsa.KeyFile
import Turnstile.Text.Quoted
set_option autoImplicit false

/-! Signing keys under an identifier. The public half is always derived from the
private one, and displaying a pair shows its identifier alone. -/

namespace Turnstile

inductive KeyRejection where
  | block (fault : Pem.Fault)
  | label (found : String)
  | numbers (fault : Rsa.KeyFault)
  deriving DecidableEq, Repr

namespace KeyRejection

def message : KeyRejection → String
  | block fault => "bad PEM: " ++ fault.message
  | label found => "unexpected PEM label " ++ Text.quoted found
  | numbers fault => "rejected RSA key: " ++ fault.message

end KeyRejection

/-- A private key that passed the checks on loading, and the identifier that credentials
name it by. -/
structure KeyPair where
  kid : String
  key : Rsa.PrivateKey
  checked : key.check = .ok ()
  deriving DecidableEq, Repr

namespace KeyPair

def bareLabel : String := "RSA PRIVATE KEY"

def envelopeLabel : String := "PRIVATE KEY"

def publicLabel : String := "RSA PUBLIC KEY"

def ofBlock (kid : String) (block : Pem.Block) : Except KeyRejection KeyPair :=
  if block.label = bareLabel then
    match read : Rsa.ofNumbers block.contents with
    | .ok key => .ok ⟨kid, key, Rsa.check_of_ofNumbers read⟩
    | .error fault => .error (.numbers fault)
  else if block.label = envelopeLabel then
    match read : Rsa.ofEnvelope block.contents with
    | .ok key => .ok ⟨kid, key, Rsa.check_of_ofEnvelope read⟩
    | .error fault => .error (.numbers fault)
  else .error (.label block.label)

def ofPem (kid : String) (text : Bytes) : Except KeyRejection KeyPair :=
  match Pem.parse text with
  | .ok block => ofBlock kid block
  | .error fault => .error (.block fault)

def publicKey (pair : KeyPair) : Rsa.PublicKey := pair.key.toPublic

def publicPem (pair : KeyPair) : String := Pem.render ⟨publicLabel, pair.publicKey.encode⟩

def display (pair : KeyPair) : String :=
  "KeyPair \x7b kid: " ++ Text.quoted pair.kid ++ ", .. \x7d"

end KeyPair

end Turnstile
