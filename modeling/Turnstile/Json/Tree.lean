import Turnstile.Json.Token
import Turnstile.Number.Numeral
set_option autoImplicit false

/-! The shape of a JSON text. A tree is what the grammar makes of the tokens,
with strings and numerals as they are written: a reader that skips a part of a
text asks no more of it than to have a shape. Nesting has no limit here. -/

namespace Turnstile.Json

inductive Tree where
  | null
  | bool (value : Bool)
  | numeral (value : Numeral)
  | string (body : Bytes)
  | array (items : List Tree)
  | object (members : List (Bytes × Tree))

namespace Tree

/-- What encloses the value that is being read. Items and members before it are
kept newest first. -/
inductive Frame where
  | item (done : List Tree)
  | member (done : List (Bytes × Tree)) (key : Bytes)

/-- What must come next, and what encloses it, innermost first. -/
inductive Reading where
  | value (within : List Frame)
  /-- A value, or the end of an array just opened. -/
  | firstItem (within : List Frame)
  /-- A key, or the end of an object just opened. -/
  | firstKey (within : List Frame)
  | key (done : List (Bytes × Tree)) (within : List Frame)
  | colon (done : List (Bytes × Tree)) (key : Bytes) (within : List Frame)
  | after (tree : Tree) (within : List Frame)

def ofWord? (letters : Bytes) : Option Tree :=
  let text := letters.map fun byte => Char.ofNat byte.toNat
  if text = ['n', 'u', 'l', 'l'] then some .null
  else if text = ['t', 'r', 'u', 'e'] then some (.bool true)
  else if text = ['f', 'a', 'l', 's', 'e'] then some (.bool false)
  else (Numeral.read? text).map .numeral

def beginValue (within : List Frame) : Token → Option Reading
  | .openBracket => some (.firstItem within)
  | .openBrace => some (.firstKey within)
  | .string body => some (.after (.string body) within)
  | .word letters => (ofWord? letters).map fun tree => .after tree within
  | _ => none

def step : Reading → Token → Option Reading
  | .value within, token => beginValue within token
  | .firstItem within, .closeBracket => some (.after (.array []) within)
  | .firstItem within, token => beginValue (.item [] :: within) token
  | .firstKey within, .closeBrace => some (.after (.object []) within)
  | .firstKey within, .string key => some (.colon [] key within)
  | .firstKey _, _ => none
  | .key done within, .string key => some (.colon done key within)
  | .key _ _, _ => none
  | .colon done key within, .colon => some (.value (.member done key :: within))
  | .colon _ _ _, _ => none
  | .after tree (.item done :: within), .comma => some (.value (.item (tree :: done) :: within))
  | .after tree (.item done :: within), .closeBracket =>
      some (.after (.array (tree :: done).reverse) within)
  | .after tree (.member done key :: within), .comma => some (.key ((key, tree) :: done) within)
  | .after tree (.member done key :: within), .closeBrace =>
      some (.after (.object ((key, tree) :: done).reverse) within)
  | .after _ _, _ => none

def run : Reading → List Token → Option Reading
  | reading, [] => some reading
  | reading, token :: rest =>
      match step reading token with
      | none => none
      | some next => run next rest

def complete? : Reading → Option Tree
  | .after tree [] => some tree
  | _ => none

def ofTokens? (tokens : List Token) : Option Tree := (run (.value []) tokens).bind complete?

def parse? (text : Bytes) : Option Tree := (Token.scan? text).bind ofTokens?

end Tree

end Turnstile.Json
