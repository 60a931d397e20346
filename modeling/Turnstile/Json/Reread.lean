import Turnstile.Json.Printer
set_option autoImplicit false

/-! Values that are handed on as text: what the reader of the text makes of it. All
but binary numbers come back as they were; nesting beyond the limit and numbers
that the reader finds too large do not come back at all. -/

namespace Turnstile

def Number.reread? : Number → Option Number
  | .int value => some (.int value)
  | .real value => (Numeral.read? (Json.renderReal value)).bind Numeral.number?

namespace Json

mutual

def rereadNumbers? : Json → Option Json
  | .null => some .null
  | .bool value => some (.bool value)
  | .number value => value.reread?.map .number
  | .string value => some (.string value)
  | .array items => (rereadItems? items).map .array
  | .object members => (rereadMembers? members).map .object

def rereadItems? : List Json → Option (List Json)
  | [] => some []
  | item :: rest =>
      match rereadNumbers? item, rereadItems? rest with
      | some item, some rest => some (item :: rest)
      | _, _ => none

def rereadMembers? : List (String × Json) → Option (List (String × Json))
  | [] => some []
  | (key, value) :: rest =>
      match rereadNumbers? value, rereadMembers? rest with
      | some value, some rest => some ((key, value) :: rest)
      | _, _ => none

end

def reread? (value : Json) : Option Json :=
  if value.depth ≤ depthLimit then value.rereadNumbers? else none

end Json

end Turnstile
