import Turnstile.Text.Visible
set_option autoImplicit false

/-! Display of a text in double quotes, as it appears in diagnostics. Every
character that has no visible shape of its own is named by its code point, so
two different texts never look alike. -/

namespace Turnstile.Text

def hexDigit (value : Nat) : Char :=
  if value < 10 then Char.ofNat (48 + value) else Char.ofNat (87 + value)

/-- Hexadecimal digits of a number, most significant first, at most `places`
of them. -/
def hexDigits : (places : Nat) → Nat → List Char
  | 0, _ => []
  | places + 1, value =>
      if value < 16 then [hexDigit value]
      else hexDigits places (value / 16) ++ [hexDigit (value % 16)]

/-- A character named by its code point: a backslash, the letter u and the
lower case hexadecimal number in braces. -/
def namedPoint (char : Char) : List Char :=
  ['\\', 'u', '\x7b'] ++ hexDigits 6 char.toNat ++ ['\x7d']

def quotedChar (char : Char) : List Char :=
  if char = '\x00' then ['\\', '0']
  else if char = '\t' then ['\\', 't']
  else if char = '\r' then ['\\', 'r']
  else if char = '\n' then ['\\', 'n']
  else if char = '"' then ['\\', '"']
  else if char = '\\' then ['\\', '\\']
  else if isVisible char then [char]
  else namedPoint char

def quoted (text : String) : String :=
  String.ofList ('"' :: text.toList.flatMap quotedChar ++ ['"'])

end Turnstile.Text
