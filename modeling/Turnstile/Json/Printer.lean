import Turnstile.Json.Value
import Turnstile.Number.Shortest
set_option autoImplicit false

/-! The text of JSON values: compact, with members in the order of their keys, or
indented by two spaces a level. -/

namespace Turnstile

/-- How decimals are laid out: the exponents of the first digit between which
they are written with a point and no exponent, the upper one excluded. -/
structure Decimal.Layout where
  positionalFrom : Int
  positionalBelow : Int

/-- The text of a positive decimal. A number without a fraction keeps one zero
after the point; an exponent carries its sign and no leading zero. -/
def Decimal.render (layout : Decimal.Layout) (decimal : Decimal) : List Char :=
  let digits := Nat.toDigits 10 decimal.digits
  let size : Int := digits.length
  let point := size + decimal.exponent
  let first := point - 1
  if layout.positionalFrom ≤ first ∧ first < layout.positionalBelow then
    if 0 ≤ decimal.exponent then
      digits ++ List.replicate decimal.exponent.toNat '0' ++ ['.', '0']
    else if 0 < point then
      digits.take point.toNat ++ '.' :: digits.drop point.toNat
    else '0' :: '.' :: List.replicate (-point).toNat '0' ++ digits
  else
    let mantissa := match digits with
      | lead :: [] => [lead]
      | lead :: rest => lead :: '.' :: rest
      | [] => []
    mantissa ++ ['e', if first < 0 then '-' else '+'] ++ Nat.toDigits 10 first.natAbs

namespace Json

/-- Binary numbers are written with a point from 0.00001 up to sixteen digits
before the point. -/
def realLayout : Decimal.Layout := ⟨-5, 16⟩

def renderInt (value : Int) : List Char :=
  if value < 0 then '-' :: Nat.toDigits 10 value.natAbs else Nat.toDigits 10 value.natAbs

def renderReal (value : Binary64) : List Char :=
  let magnitude :=
    if value.units = 0 then ['0', '.', '0']
    else (Binary64.shortest value.units).render realLayout
  if value.negative then '-' :: magnitude else magnitude

def renderNumber : Number → List Char
  | .int value => renderInt value
  | .real value => renderReal value

mutual

def render : Json → List Char
  | .null => ['n', 'u', 'l', 'l']
  | .bool true => ['t', 'r', 'u', 'e']
  | .bool false => ['f', 'a', 'l', 's', 'e']
  | .number value => renderNumber value
  | .string value => quote value.toList
  | .array items => '[' :: renderItems items ++ [']']
  | .object members => '\x7b' :: renderMembers members ++ ['\x7d']

def renderItems : List Json → List Char
  | [] => []
  | [item] => render item
  | item :: rest => render item ++ ',' :: renderItems rest

def renderMembers : List (String × Json) → List Char
  | [] => []
  | [(key, value)] => quote key.toList ++ ':' :: render value
  | (key, value) :: rest => quote key.toList ++ ':' :: render value ++ ',' :: renderMembers rest

end

def compact (value : Json) : String := String.ofList (render value)

def newLine (level : Nat) : List Char := '\n' :: List.replicate (2 * level) ' '

mutual

def renderIndented (level : Nat) : Json → List Char
  | .array (item :: rest) => '[' :: renderIndentedItems (level + 1) (item :: rest) ++
      newLine level ++ [']']
  | .object (member :: rest) => '\x7b' :: renderIndentedMembers (level + 1) (member :: rest) ++
      newLine level ++ ['\x7d']
  | .array [] => ['[', ']']
  | .object [] => ['\x7b', '\x7d']
  | .null => render .null
  | .bool value => render (.bool value)
  | .number value => renderNumber value
  | .string value => quote value.toList

def renderIndentedItems (level : Nat) : List Json → List Char
  | [] => []
  | [item] => newLine level ++ renderIndented level item
  | item :: rest => newLine level ++ renderIndented level item ++ ',' ::
      renderIndentedItems level rest

def renderIndentedMembers (level : Nat) : List (String × Json) → List Char
  | [] => []
  | [(key, value)] => newLine level ++ quote key.toList ++ [':', ' '] ++ renderIndented level value
  | (key, value) :: rest => newLine level ++ quote key.toList ++ [':', ' '] ++
      renderIndented level value ++ ',' :: renderIndentedMembers level rest

end

def pretty (value : Json) : String := String.ofList (renderIndented 0 value)

end Json

end Turnstile
