import Turnstile.Json.Text
import Turnstile.Number.Exact
set_option autoImplicit false

/-! The words of policy sources and queries. Comments run from a number sign to the
end of the line, and a character of code zero ends the text. A token knows whether
it follows the one before without a gap, because the steps of a reference have
none, and whether it starts in a later line, because lines part statements. -/

namespace Turnstile.Policy

inductive Lexeme where
  | word (text : String)
  | string (text : String)
  | number (value : Exact)
  /-- Punctuation. The empty set, which has no braces, is punctuation as well. -/
  | sign (text : String)
  deriving DecidableEq, Repr

structure Token where
  lexeme : Lexeme
  /-- Nothing stands between this token and the one before. The quote that closes a
  string stands between it and the next token. -/
  joined : Bool
  /-- The token starts in a later line than the one before. -/
  begins : Bool
  deriving DecidableEq, Repr

namespace Token

def isNameStart (char : Char) : Bool := char.isAlpha || char == '_'

def isNamePart (char : Char) : Bool := char.isAlphanum || char == '_'

def stringBody? : List Char → Option (List Char × List Char)
  | [] => none
  | '"' :: rest => some ([], rest)
  | '\\' :: char :: rest => (stringBody? rest).map fun (body, rest) => ('\\' :: char :: body, rest)
  | char :: rest =>
      if char.toNat < 0x20 then none
      else (stringBody? rest).map fun (body, rest) => (char :: body, rest)

def rawBody? : List Char → Option (List Char × List Char)
  | [] => none
  | '`' :: rest => some ([], rest)
  | char :: rest =>
      if char.toNat = 0 then none
      else (rawBody? rest).map fun (body, rest) => (char :: body, rest)

def fractionPart : List Char → List Char
  | '.' :: digit :: rest =>
      if digit.isDigit then '.' :: digit :: rest.takeWhile Char.isDigit else []
  | _ => []

def exponentPart : List Char → List Char
  | mark :: rest =>
      if mark = 'e' ∨ mark = 'E' then
        match rest with
        | '+' :: rest => mark :: '+' :: rest.takeWhile Char.isDigit
        | '-' :: rest => mark :: '-' :: rest.takeWhile Char.isDigit
        | rest => mark :: rest.takeWhile Char.isDigit
      else []
  | [] => []

/-- The characters of a numeral that a text starts with. A leading zero is the only
digit in front of the point. -/
def numeralPart (text : List Char) : List Char :=
  let whole := match text with
    | '0' :: _ => ['0']
    | text => text.takeWhile Char.isDigit
  let fraction := fractionPart (text.drop whole.length)
  let exponent := exponentPart (text.drop (whole.length + fraction.length))
  whole ++ fraction ++ exponent

/-- The number at the start of a text, and what follows it: no point and nothing that
a name goes on with. -/
def number? (text : List Char) : Option (Exact × List Char) := do
  let part := numeralPart text
  let rest := text.drop part.length
  let numeral ← Numeral.read? part
  let _ ← numeral.number?
  match rest with
  | char :: _ => if char == '.' || isNamePart char then none
  | [] => pure ()
  return (Exact.ofNumeral numeral, rest)

def sign? : List Char → Option (String × List Char)
  | ':' :: '=' :: rest => some (":=", rest)
  | '=' :: '=' :: rest => some ("==", rest)
  | '!' :: '=' :: rest => some ("!=", rest)
  | '<' :: '=' :: rest => some ("<=", rest)
  | '>' :: '=' :: rest => some (">=", rest)
  | char :: rest =>
      if "[](),.:;=<>+-*/%&|".toList.contains char || char == '\x7b' || char == '\x7d' then
        some (String.ofList [char], rest)
      else none
  | [] => none

/-- The text behind the blanks and comments that it starts with, and the number of
lines they end; `budget` bounds its length. A carriage return has to end a line. -/
def skipGap : (budget lines : Nat) → List Char → Option (Nat × List Char)
  | 0, lines, text => some (lines, text)
  | budget + 1, lines, text =>
      match text with
      | ' ' :: rest => skipGap budget lines rest
      | '\t' :: rest => skipGap budget lines rest
      | '\n' :: rest => skipGap budget (lines + 1) rest
      | '\r' :: '\n' :: rest => skipGap budget (lines + 1) rest
      | '\r' :: _ => none
      | '#' :: rest =>
          skipGap budget lines (rest.dropWhile fun char => char ≠ '\n' ∧ char.toNat ≠ 0)
      | text => some (lines, text)

/-- What follows the parentheses behind the name of the empty set, if they come and
hold nothing. -/
def emptySet? (text : List Char) : Option (List Char) :=
  match text with
  | '(' :: rest =>
      match skipGap rest.length 0 rest with
      | some (_, ')' :: rest) => some rest
      | _ => none
  | _ => none

def lexeme? : List Char → Option (Lexeme × List Char)
  | [] => none
  | '"' :: rest => do
      let (body, rest) ← stringBody? rest
      let text ← Json.unescape? body
      return (.string (String.ofList text), rest)
  | '`' :: rest => do
      let (body, rest) ← rawBody? rest
      return (.string (String.ofList body), rest)
  | char :: rest =>
      if isNameStart char then
        let name := String.ofList (char :: rest.takeWhile isNamePart)
        let rest := rest.dropWhile isNamePart
        if name = "set" then
          match emptySet? rest with
          | some rest => some (.sign "set()", rest)
          | none => some (.word name, rest)
        else some (.word name, rest)
      else if char.isDigit then
        (number? (char :: rest)).map fun (value, rest) => (.number value, rest)
      else (sign? (char :: rest)).map fun (sign, rest) => (.sign sign, rest)

def isQuoted : Lexeme → Bool
  | .string _ => true
  | _ => false

def lineEnds (text : List Char) : Nat := text.count '\n'

/-- The tokens of a text. `adjacent` tells whether the next token may be joined to the
one before, and `lines` how many lines that one took up; `budget` bounds the length. -/
def scanFrom : (budget : Nat) → (adjacent : Bool) → (lines : Nat) → List Char →
    Option (List Token)
  | 0, _, _, _ => none
  | budget + 1, adjacent, lines, text =>
      match skipGap text.length lines text with
      | none => none
      | some (_, []) => some []
      | some (lines, char :: rest) =>
          if char.toNat = 0 then some []
          else
            match lexeme? (char :: rest) with
            | none => none
            | some (lexeme, behind) =>
                let taken := (char :: rest).take (rest.length + 1 - behind.length)
                let joined := adjacent && (char :: rest).length == text.length
                (scanFrom budget (!isQuoted lexeme) (lineEnds taken) behind).map
                  (⟨lexeme, joined, decide (0 < lines)⟩ :: ·)

def scan? (text : List Char) : Option (List Token) :=
  scanFrom (text.length + 1) false 0 text

end Token

end Turnstile.Policy
