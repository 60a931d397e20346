import Turnstile.Json.Reread
import Turnstile.Number.Exact
set_option autoImplicit false

/-! Values that policies compute with: those of JSON, with exact numbers, and sets.
Values have a total order; sets and objects are kept sorted by it. -/

namespace Turnstile.Policy

inductive Value where
  | null
  | bool (value : Bool)
  | number (value : Exact)
  | string (value : String)
  | array (items : List Value)
  | set (items : List Value)
  | object (members : List (Value × Value))

def orderNat (left right : Nat) : Ordering :=
  if left < right then .lt else if left = right then .eq else .gt

def orderText (left right : String) : Ordering :=
  if left < right then .lt else if left = right then .eq else .gt

namespace Value

def rank : Value → Nat
  | null => 0
  | bool _ => 1
  | number _ => 2
  | string _ => 3
  | array _ => 4
  | set _ => 5
  | object _ => 6

mutual

def order : Value → Value → Ordering
  | .bool left, .bool right => orderNat left.toNat right.toNat
  | .number left, .number right => left.order right
  | .string left, .string right => orderText left right
  | .array left, .array right => orderItems left right
  | .set left, .set right => orderItems left right
  | .object left, .object right => orderMembers left right
  | left, right => orderNat left.rank right.rank

def orderItems : List Value → List Value → Ordering
  | [], [] => .eq
  | [], _ :: _ => .lt
  | _ :: _, [] => .gt
  | left :: lefts, right :: rights =>
      match order left right with
      | .eq => orderItems lefts rights
      | different => different

def orderMembers : List (Value × Value) → List (Value × Value) → Ordering
  | [], [] => .eq
  | [], _ :: _ => .lt
  | _ :: _, [] => .gt
  | (key, value) :: lefts, (otherKey, otherValue) :: rights =>
      match order key otherKey with
      | .eq =>
          match order value otherValue with
          | .eq => orderMembers lefts rights
          | different => different
      | different => different

end

def same (left right : Value) : Bool := order left right == .eq

/-- Put an item in its place in a sorted list, unless it is there. -/
def insertItem (item : Value) : List Value → List Value
  | [] => [item]
  | other :: rest =>
      match order item other with
      | .lt => item :: other :: rest
      | .eq => other :: rest
      | .gt => other :: insertItem item rest

def setOf (items : List Value) : Value :=
  .set (items.foldl (fun sorted item => insertItem item sorted) [])

/-- Put a member in its place in a sorted list; a member of the same key makes
way. -/
def insertMember (key value : Value) : List (Value × Value) → List (Value × Value)
  | [] => [(key, value)]
  | (name, other) :: rest =>
      match order key name with
      | .lt => (key, value) :: (name, other) :: rest
      | .eq => (key, value) :: rest
      | .gt => (name, other) :: insertMember key value rest

def objectOf (members : List (Value × Value)) : Value :=
  .object (members.foldl (fun sorted (key, value) => insertMember key value sorted) [])

def member? (key : Value) : List (Value × Value) → Option Value
  | [] => none
  | (name, value) :: rest => if same name key then some value else member? key rest

/-- The value at an index: a member of an object, an item of an array by its place,
or a member of a set. -/
def at? (value index : Value) : Option Value :=
  match value, index with
  | .object members, index => member? index members
  | .array items, .number place => place.place?.bind fun place => items[place]?
  | .set items, index => items.find? index.same
  | _, _ => none

/-- Whether a value is an item of a list or a set, or the value of a member. What
holds no values has none as an item. -/
def has (collection item : Value) : Bool :=
  match collection with
  | .array items => items.any item.same
  | .set items => items.any item.same
  | .object members => members.any fun (_, value) => item.same value
  | _ => false

/-- The keys of a value that holds values, each with the value at it: the places of
an array, and the items of a set at themselves. -/
def entries? : Value → Option (List (Value × Value))
  | .array items =>
      some (items.zipIdx.map fun (item, place) => (.number (.ofInt place), item))
  | .set items => some (items.map fun item => (item, item))
  | .object members => some members
  | _ => none

def hasAt (collection key item : Value) : Bool :=
  match collection with
  | .set _ => false
  | collection =>
      match collection.at? key with
      | some value => value.same item
      | none => false

/-- Put an item in its place in a sorted list, behind those that are the same. -/
def insertSorted (items : List Value) (item : Value) : List Value :=
  match items with
  | [] => [item]
  | other :: rest =>
      if order item other == .lt then item :: other :: rest else other :: insertSorted rest item

def kindName : Value → String
  | null => "null"
  | bool _ => "boolean"
  | number _ => "number"
  | string _ => "string"
  | array _ => "array"
  | set _ => "set"
  | object _ => "object"

def kindTests : List (String × String) :=
  [("is_null", "null"), ("is_boolean", "boolean"), ("is_number", "number"),
    ("is_string", "string"), ("is_array", "array"), ("is_set", "set"), ("is_object", "object")]

def union (left right : List Value) : List Value :=
  right.foldl (fun sorted item => insertItem item sorted) left

def intersection (left right : List Value) : List Value :=
  left.filter fun item => right.any item.same

def difference (left right : List Value) : List Value :=
  left.filter fun item => !right.any item.same

def follow? : Value → List String → Option Value
  | value, [] => some value
  | value, step :: path => (value.at? (.string step)).bind fun value => value.follow? path

def nest : List String → Value → Value
  | [], value => value
  | step :: path, value => .object [(.string step, nest path value)]

/-- Put a value at the end of a path of keys, where nothing or the same value may be.
What stands in the way of the path is a conflict, and then there is no result. -/
def place? : Option Value → (keys : List Value) → Value → Option Value
  | none, [], value => some value
  | some found, [], value => if found.same value then some found else none
  | none, key :: keys, value =>
      (place? none keys value).map fun value => .object [(key, value)]
  | some (.object members), key :: keys, value =>
      (place? (member? key members) keys value).map fun value =>
        .object (insertMember key value members)
  | some _, _ :: _, _ => none

def replaceAt : Value → List String → Value → Value
  | _, [], value => value
  | .object members, step :: path, value =>
      .object (insertMember (.string step)
        (((member? (.string step) members).getD (.object [])).replaceAt path value) members)
  | _, step :: path, value => nest (step :: path) value

/-- The key of an object that stands for a number. -/
def numeralKey : String := "$serde_json::private::Number"

def ofNumeral? (text : String) : Option Value :=
  (Numeral.read? text.toList).map fun numeral => .number (.ofNumeral numeral)

/-- The value of an object. If it starts with a text at the key of numerals, it is the number
that the text reads, and nothing else may stand in it. -/
def ofEntries? : List (Value × Value) → Option Value
  | (.string key, .string text) :: rest =>
      if key = numeralKey then if rest.isEmpty then ofNumeral? text else none
      else some (.object ((.string key, .string text) :: rest))
  | members => some (.object members)

mutual

def ofJson? : Json → Option Value
  | .null => some .null
  | .bool value => some (.bool value)
  | .number value => some (.number (.ofNumber value))
  | .string value => some (.string value)
  | .array items => (ofItems? items).map .array
  | .object members => (ofMembers? members).bind ofEntries?

def ofItems? : List Json → Option (List Value)
  | [] => some []
  | item :: rest =>
      match ofJson? item, ofItems? rest with
      | some item, some rest => some (item :: rest)
      | _, _ => none

def ofMembers? : List (String × Json) → Option (List (Value × Value))
  | [] => some []
  | (key, value) :: rest =>
      match ofJson? value, ofMembers? rest with
      | some value, some rest => some ((.string key, value) :: rest)
      | _, _ => none

end

mutual

/-- A value as JSON. A set becomes the array of its items in order, a key that is no
text becomes its own text, and a number too large to exchange becomes null. -/
def toJson : Value → Json
  | .null => .null
  | .bool value => .bool value
  | .number value => (value.number?.map .number).getD .null
  | .string value => .string value
  | .array items => .array (toItems items)
  | .set items => .array (toItems items)
  | .object members => Json.ofMembers (toMembers members)

def toItems : List Value → List Json
  | [] => []
  | item :: rest => toJson item :: toItems rest

def toMembers : List (Value × Value) → List (String × Json)
  | [] => []
  | (.string key, value) :: rest => (key, toJson value) :: toMembers rest
  | (key, value) :: rest => ((toJson key).compact, toJson value) :: toMembers rest

end

/-- The value that a policy makes of a text of JSON. -/
def enter? (value : Json) : Option Value := value.reread?.bind ofJson?

end Value

end Turnstile.Policy
