import Turnstile.Policy.Outcome
import Turnstile.Policy.Syntax
import Turnstile.Text.Blank
import Turnstile.Text.LetterCase
set_option autoImplicit false

/-! What operators and functions make of values. Values of the wrong kind are a fault. Of
the functions of the language there are those that check tokens, tell kinds, count, sum,
sort, join and split. The others are left out, and a call of one is a fault here as if the
language did not have it: rounding and ranges of numbers, the formatting, searching and
replacing of texts, slices of arrays, whatever rewrites objects but `object.get`, and the
groups for bits, encodings, digests, patterns, graphs, networks, times, units, versions
and random values. -/

namespace Turnstile.Policy

namespace Operator

def ofNumbers? : Operator → Exact → Exact → Option Exact
  | add, left, right => some (left.add right)
  | subtract, left, right => some (left.sub right)
  | multiply, left, right => some (left.mul right)
  | divide, left, right => left.div? right
  | remainder, left, right => left.rem? right
  | _, _, _ => none

def ofSets? : Operator → List Value → List Value → Option (List Value)
  | union, left, right => some (Value.union left right)
  | intersection, left, right => some (Value.intersection left right)
  | subtract, left, right => some (Value.difference left right)
  | _, _, _ => none

def ofOrder? : Operator → Ordering → Option Bool
  | equal, order => some (order == .eq)
  | unequal, order => some (order != .eq)
  | less, order => some (order == .lt)
  | atMost, order => some (order != .gt)
  | greater, order => some (order == .gt)
  | atLeast, order => some (order != .lt)
  | _, _ => none

def apply (operator : Operator) (left right : Value) : Outcome Value :=
  match operator.ofOrder? (left.order right) with
  | some holds => .value (.bool holds)
  | none =>
      match left, right with
      | .number left, .number right =>
          (Outcome.expect (operator.ofNumbers? left right)).map .number
      | .set left, .set right => (Outcome.expect (operator.ofSets? left right)).map .set
      | _, _ => .fault .engine

end Operator

def callDecodeVerify (now : Int) (token constraints : Value) : Outcome Value :=
  match token.toJson.reread?, constraints.toJson.reread? with
  | some token, some constraints =>
      match token.string? with
      | none => .fault (.tokenCheck .tokenNotString)
      | some token =>
          match decodeVerify now token constraints with
          | .error cause => .fault (.tokenCheck cause)
          | .ok verdict => .expect (Value.enter? verdict.toJson)
  | _, _ => .fault .engine

def unitCount (text : String) : Nat :=
  text.toList.foldl (fun count char => count + if char.toNat < 0x10000 then 1 else 2) 0

/-- How many values a value holds, or units a text has. -/
def size? : Value → Option Nat
  | .string text => some (unitCount text)
  | .array items => some items.length
  | .set items => some items.length
  | .object members => some members.length
  | _ => none

def items? : Value → Option (List Value)
  | .array items => some items
  | .set items => some items
  | _ => none

def texts? : List Value → Option (List (List Char))
  | [] => some []
  | .string text :: rest => (texts? rest).map fun texts => text.toList :: texts
  | _ :: _ => none

def numbers? : List Value → Option (List Exact)
  | [] => some []
  | .number value :: rest => (numbers? rest).map fun values => value :: values
  | _ :: _ => none

def sets? : List Value → Option (List (List Value))
  | [] => some []
  | .set items :: rest => (sets? rest).map fun sets => items :: sets
  | _ :: _ => none

def textValue (text : List Char) : Value := .string (String.ofList text)

def withoutPrefix (text part : List Char) : List Char :=
  if part.isPrefixOf text then text.drop part.length else text

def withoutSuffix (text part : List Char) : List Char :=
  if part.isSuffixOf text then text.take (text.length - part.length) else text

def holdsPart (part : List Char) : List Char → Bool
  | [] => part.isEmpty
  | char :: rest => part.isPrefixOf (char :: rest) || holdsPart part rest

/-- The pieces of a text between the places where a separator stands. The first `skipped`
characters belong to a separator, and `piece` holds those before, the latest first. -/
def piecesFrom (separator : List Char) : (skipped : Nat) → (piece : List Char) → List Char →
    List (List Char)
  | _, piece, [] => [piece.reverse]
  | skipped + 1, piece, _ :: rest => piecesFrom separator skipped piece rest
  | 0, piece, char :: rest =>
      if separator.isPrefixOf (char :: rest) then
        piece.reverse :: piecesFrom separator (separator.length - 1) [] rest
      else piecesFrom separator 0 (char :: piece) rest

def pieces (text separator : List Char) : List (List Char) :=
  if separator.isEmpty then text.map fun char => [char] else piecesFrom separator 0 [] text

def callOne : (function : String) → Value → Outcome Value
  | "count", value => (Outcome.expect (size? value)).map fun (size : Nat) => .number (.ofInt size)
  | "upper", .string text => .value (textValue (Text.upper text.toList))
  | "lower", .string text => .value (textValue (Text.lower text.toList))
  | "trim_space", .string text => .value (textValue (Text.trimChars text.toList))
  | "abs", .number value =>
      .value (.number (if value.significand < 0 then value.neg else value))
  | "sum", value =>
      (Outcome.expect ((items? value).bind numbers?)).map fun values =>
        .number (values.foldl Exact.add (.ofInt 0))
  | "product", value =>
      (Outcome.expect ((items? value).bind numbers?)).map fun values =>
        .number (values.foldl Exact.mul (.ofInt 1))
  | "max", value =>
      (Outcome.expect (items? value)).andThen fun items =>
        .ofOption (items.foldl Value.insertSorted []).getLast?
  | "min", value =>
      (Outcome.expect (items? value)).andThen fun items =>
        .ofOption (items.foldl Value.insertSorted []).head?
  | "sort", value =>
      (Outcome.expect (items? value)).map fun items => .array (items.foldl Value.insertSorted [])
  | "union", .set items =>
      (Outcome.expect (sets? items)).map fun sets => .set (sets.foldl Value.union [])
  | "intersection", .set items =>
      (Outcome.expect (sets? items)).map fun sets =>
        match sets with
        | [] => .set []
        | first :: rest => .set (rest.foldl Value.intersection first)
  | "type_name", value => .value (.string value.kindName)
  | function, value =>
      match Value.kindTests.lookup function with
      | some name => .value (.bool (value.kindName == name))
      | none => .fault .engine

def callTwo : (function : String) → Value → Value → Outcome Value
  | "startswith", .string text, .string part =>
      .value (.bool (part.toList.isPrefixOf text.toList))
  | "endswith", .string text, .string part =>
      .value (.bool (part.toList.isSuffixOf text.toList))
  | "contains", .string text, .string part => .value (.bool (holdsPart part.toList text.toList))
  | "trim_prefix", .string text, .string part =>
      .value (textValue (withoutPrefix text.toList part.toList))
  | "trim_suffix", .string text, .string part =>
      .value (textValue (withoutSuffix text.toList part.toList))
  | "split", .string text, .string separator =>
      .value (.array ((pieces text.toList separator.toList).map textValue))
  | "concat", .string separator, value =>
      (Outcome.expect ((items? value).bind texts?)).map fun texts =>
        textValue (separator.toList.intercalate texts)
  | "array.concat", .array left, .array right => .value (.array (left ++ right))
  | _, _, _ => .fault .engine

def callFunction (now : Int) (function : String) (arguments : List Value) : Outcome Value :=
  match arguments with
  | [value] => callOne function value
  | [first, second] =>
      if function = "io.jwt.decode_verify" then callDecodeVerify now first second
      else callTwo function first second
  | [.object members, key, otherwise] =>
      if function = "object.get" then .value ((Value.member? key members).getD otherwise)
      else .fault .engine
  | _ => .fault .engine

end Turnstile.Policy
