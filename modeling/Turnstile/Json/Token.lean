import Turnstile.Bytes
set_option autoImplicit false

/-! The words of a JSON text. A string is kept as the octets between its quotes:
whether they are a text is a question for whoever needs the text. The check here
is for control characters and for the form of escapes. Every run of other octets
between punctuation and blanks is one word. -/

namespace Turnstile.Json

inductive Token where
  | openBrace
  | closeBrace
  | openBracket
  | closeBracket
  | comma
  | colon
  | string (body : Bytes)
  | word (letters : Bytes)
  deriving DecidableEq, Repr

namespace Token

/-- What the octets before this place have begun. Octets are kept newest first. -/
inductive Mode where
  | between
  | string (body : Bytes)
  | escape (body : Bytes)
  /-- Within an escape by number, with some of its digits missing. -/
  | digits (missing : Nat) (body : Bytes)
  | word (letters : Bytes)
  deriving DecidableEq, Repr

def quote : UInt8 := 0x22
def backslash : UInt8 := 0x5c

def isBlank (byte : UInt8) : Bool :=
  byte == 0x20 || byte == 0x09 || byte == 0x0a || byte == 0x0d

def punctuation? (byte : UInt8) : Option Token :=
  if byte = 0x7b then some .openBrace
  else if byte = 0x7d then some .closeBrace
  else if byte = 0x5b then some .openBracket
  else if byte = 0x5d then some .closeBracket
  else if byte = 0x2c then some .comma
  else if byte = 0x3a then some .colon
  else none

def isWordOctet (byte : UInt8) : Bool :=
  !isBlank byte && (punctuation? byte).isNone && byte != quote

def isHexDigit (byte : UInt8) : Bool :=
  let value := byte.toNat
  (48 ≤ value && value ≤ 57) || (65 ≤ value && value ≤ 70) || (97 ≤ value && value ≤ 102)

/-- An octet that makes an escape of two characters. -/
def isShortEscape (byte : UInt8) : Bool :=
  [0x22, 0x5c, 0x2f, 0x62, 0x66, 0x6e, 0x72, 0x74].contains byte

def start (byte : UInt8) : List Token × Mode :=
  if isBlank byte then ([], .between)
  else match punctuation? byte with
    | some token => ([token], .between)
    | none => if byte = quote then ([], .string []) else ([], .word [byte])

def step : Mode → UInt8 → Option (List Token × Mode)
  | .between, byte => some (start byte)
  | .word letters, byte =>
      if isWordOctet byte then some ([], .word (byte :: letters))
      else
        let (tokens, mode) := start byte
        some (.word letters.reverse :: tokens, mode)
  | .string body, byte =>
      if byte = quote then some ([.string body.reverse], .between)
      else if byte = backslash then some ([], .escape (byte :: body))
      else if byte.toNat < 0x20 then none
      else some ([], .string (byte :: body))
  | .escape body, byte =>
      if byte = 0x75 then some ([], .digits 4 (byte :: body))
      else if isShortEscape byte then some ([], .string (byte :: body))
      else none
  | .digits missing body, byte =>
      if isHexDigit byte then
        if missing ≤ 1 then some ([], .string (byte :: body))
        else some ([], .digits (missing - 1) (byte :: body))
      else none

def finish : Mode → Option (List Token)
  | .between => some []
  | .word letters => some [.word letters.reverse]
  | .string _ => none
  | .escape _ => none
  | .digits _ _ => none

def scanFrom : Mode → Bytes → Option (List Token)
  | mode, [] => finish mode
  | mode, byte :: rest =>
      match step mode byte with
      | none => none
      | some (tokens, mode) => (scanFrom mode rest).map (tokens ++ ·)

def scan? (text : Bytes) : Option (List Token) := scanFrom .between text

end Token

end Turnstile.Json
