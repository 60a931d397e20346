import Turnstile.Json.Text
import Turnstile.Json.Tree
set_option autoImplicit false

/-! JSON values. A value is built from a tree only if it is nested less than 128
deep and its strings and numbers are in range. The members of an object that is
built are sorted by key, each key once: of several members with one key the last
one counts. -/

namespace Turnstile

inductive Json where
  | null
  | bool (value : Bool)
  | number (value : Number)
  | string (value : String)
  | array (items : List Json)
  | object (members : List (String × Json))

namespace Json

def lookup? {Value : Type} (key : String) : List (String × Value) → Option Value
  | [] => none
  | (name, value) :: rest => if name = key then some value else lookup? key rest

/-- Put a member in its place among sorted ones; a member of the same key makes
way. -/
def insertMember {Value : Type} (key : String) (value : Value) :
    List (String × Value) → List (String × Value)
  | [] => [(key, value)]
  | (name, other) :: rest =>
      if key = name then (key, value) :: rest
      else if key < name then (key, value) :: (name, other) :: rest
      else (name, other) :: insertMember key value rest

/-- Members in sorted order, the last one of each key. -/
def sortMembers {Value : Type} (members : List (String × Value)) : List (String × Value) :=
  members.foldl (fun sorted (key, value) => insertMember key value sorted) []

def ofMembers (members : List (String × Json)) : Json := .object (sortMembers members)

def get? (key : String) : Json → Option Json
  | .object members => lookup? key members
  | _ => none

def string? : Json → Option String
  | .string value => some value
  | _ => none

def array? : Json → Option (List Json)
  | .array items => some items
  | _ => none

def object? : Json → Option (List (String × Json))
  | .object members => some members
  | _ => none

def binary64? : Json → Option Binary64
  | .number value => some value.toBinary64
  | _ => none

def depthLimit : Nat := 127

mutual

def Tree.build? (depth : Nat) : Tree → Option Json
  | .null => some .null
  | .bool value => some (.bool value)
  | .numeral value => value.number?.map .number
  | .string body => (text? body).map .string
  | .array items =>
      match depth with
      | 0 => none
      | depth + 1 => (buildItems? depth items).map .array
  | .object members =>
      match depth with
      | 0 => none
      | depth + 1 => (buildMembers? depth members).map ofMembers

def buildItems? (depth : Nat) : List Tree → Option (List Json)
  | [] => some []
  | item :: rest =>
      match item.build? depth, buildItems? depth rest with
      | some value, some values => some (value :: values)
      | _, _ => none

def buildMembers? (depth : Nat) : List (Bytes × Tree) → Option (List (String × Json))
  | [] => some []
  | (key, tree) :: rest =>
      match text? key, tree.build? depth, buildMembers? depth rest with
      | some key, some value, some values => some ((key, value) :: values)
      | _, _, _ => none

end

mutual

def depth : Json → Nat
  | .array items => depthOfItems items + 1
  | .object members => depthOfMembers members + 1
  | _ => 0

def depthOfItems : List Json → Nat
  | [] => 0
  | item :: rest => max (depth item) (depthOfItems rest)

def depthOfMembers : List (String × Json) → Nat
  | [] => 0
  | (_, value) :: rest => max (depth value) (depthOfMembers rest)

end

def parse? (text : Bytes) : Option Json := (Tree.parse? text).bind (Tree.build? depthLimit)

end Json

end Turnstile
