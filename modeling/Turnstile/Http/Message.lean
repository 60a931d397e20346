import Turnstile.Claims
import Turnstile.Json.Value
set_option autoImplicit false

/-! Requests and responses, as far as the service looks at them. A request is built
from its parts only if every part is well formed. -/

namespace Turnstile.Http

inductive Method where
  | get
  | head
  | options
  | other (name : String)
  deriving DecidableEq, Repr

def isTokenChar (char : Char) : Bool :=
  ('0' ≤ char && char ≤ '9') || ('a' ≤ char && char ≤ 'z') || ('A' ≤ char && char ≤ 'Z') ||
    "!#$%&'*+-.^_|~".toList.contains char || char.toNat == 0x60

def isToken (text : String) : Bool := !text.toList.isEmpty && text.toList.all isTokenChar

namespace Method

def ofName? (name : String) : Option Method :=
  if name = "GET" then some get
  else if name = "HEAD" then some head
  else if name = "OPTIONS" then some options
  else if isToken name then some (other name)
  else none

end Method

def sameName (left right : String) : Bool :=
  left.toList.map Char.toLower == right.toList.map Char.toLower

def isValueOctet (octet : UInt8) : Bool := octet == 9 || (32 ≤ octet && octet != 127)

def isPlainOctet (octet : UInt8) : Bool := octet == 9 || (32 ≤ octet && octet < 127)

def plainText? (octets : Bytes) : Option String :=
  if octets.all isPlainOctet then
    some (String.ofList (octets.map fun octet => Char.ofNat octet.toNat))
  else none

/-- Headers in the order of a request. A name may occur many times. -/
abbrev Headers := List (String × Bytes)

namespace Headers

def first? (headers : Headers) (name : String) : Option Bytes :=
  (headers.find? fun header => sameName header.1 name).map Prod.snd

end Headers

def isPathChar (char : Char) : Bool :=
  let point := char.toNat
  point == 0x21 || point == 0x22 || (0x24 ≤ point && point ≤ 0x3b) || point == 0x3d ||
    (0x40 ≤ point && point ≤ 0x5f) || 0x61 ≤ point

def isQueryChar (char : Char) : Bool :=
  let point := char.toNat
  point == 0x21 || (0x24 ≤ point && point ≤ 0x3b) || point == 0x3d || 0x3f ≤ point

def isHostChar (char : Char) : Bool :=
  ('0' ≤ char && char ≤ '9') || ('a' ≤ char && char ≤ 'z') || ('A' ≤ char && char ≤ 'Z') ||
    "!$&'()*+,-.:;=@[]_~%".toList.contains char

def pathOf? (text : List Char) : Option (List Char) :=
  let text := text.takeWhile (· ≠ '#')
  let path := text.takeWhile (· ≠ '?')
  let query := (text.dropWhile (· ≠ '?')).drop 1
  if path.all isPathChar && query.all isQueryChar then some path else none

def behindScheme? (text : List Char) : Option (List Char) :=
  ["http://", "https://"].findSome? fun scheme =>
    let length := scheme.toList.length
    if (text.take length).map Char.toLower = scheme.toList then some (text.drop length) else none

/-- The path of the target of a request: a path, a star for the whole server, or a
web address. -/
def targetPath? (target : List Char) : Option (List Char) :=
  match target with
  | ['*'] => some ['*']
  | '/' :: _ => pathOf? target
  | _ =>
      match behindScheme? target with
      | some rest =>
          let isHost := fun char => char != '/' && char != '?' && char != '#'
          let host := rest.takeWhile isHost
          if host.isEmpty || !host.all isHostChar then none
          else (pathOf? (rest.dropWhile isHost)).map fun path =>
            if path.isEmpty then ['/'] else path
      | none => if target.isEmpty || !target.all isHostChar then none else some []

structure Request where
  method : Method
  /-- The path as it is written, without decoding. -/
  path : String
  headers : Headers
  /-- The claims of the bearer, once these are known. -/
  bearer : Option Claims := none
  deriving DecidableEq, Repr

inductive RequestFault where
  /-- The method, the target or the name of a header is not well formed. -/
  | form
  | headerValue
  deriving DecidableEq, Repr

namespace Request

def checkHeader (header : String × Bytes) : Except RequestFault Unit :=
  if !isToken header.1 then .error .form
  else if !header.2.all isValueOctet then .error .headerValue
  else .ok ()

def ofParts (method target : String) (headers : Headers) : Except RequestFault Request :=
  match Method.ofName? method, targetPath? target.toList with
  | some method, some path => do
      headers.forM checkHeader
      return { method := method, path := String.ofList path, headers := headers }
  | _, _ => .error .form

end Request

structure Response where
  status : Nat
  contentType : Option String
  /-- The methods that the path knows, where another one was used. -/
  allow : Option String
  requestId : Bytes
  body : Option Json

end Turnstile.Http
