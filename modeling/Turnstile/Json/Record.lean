import Turnstile.Json.Value
set_option autoImplicit false

/-! Typed reading of trees. A record reads the members it knows, each at most
once, and passes over the others without looking at their values. -/

namespace Turnstile.Json.Tree

def text? : Tree → Option String
  | .string body => Json.text? body
  | _ => none

def optionalText? : Tree → Option (Option String)
  | .null => some none
  | .string body => (Json.text? body).map some
  | _ => none

def int64? : Tree → Option Int64
  | .numeral value =>
      match value.number? with
      | some (.int whole) =>
          if -0x8000000000000000 ≤ whole ∧ whole < 0x8000000000000000 then
            some (Int64.ofInt whole)
          else none
      | _ => none
  | _ => none

def namedMembers? : List (Bytes × Tree) → Option (List (String × Tree))
  | [] => some []
  | (key, value) :: rest =>
      match Json.text? key, namedMembers? rest with
      | some key, some members => some ((key, value) :: members)
      | _, _ => none

def members? : Tree → Option (List (String × Tree))
  | .object members => namedMembers? members
  | _ => none

def occurrences (key : String) (members : List (String × Tree)) : Nat :=
  (members.filter fun member => member.1 = key).length

def eachAtMostOnce (known : List String) (members : List (String × Tree)) : Bool :=
  known.all fun key => occurrences key members ≤ 1

def required? {Value : Type} (key : String) (read : Tree → Option Value)
    (members : List (String × Tree)) : Option Value :=
  (Json.lookup? key members).bind read

def withDefault? {Value : Type} (key : String) (default : Value) (read : Tree → Option Value)
    (members : List (String × Tree)) : Option Value :=
  match Json.lookup? key members with
  | some tree => read tree
  | none => some default

def each? {Value : Type} (read : Tree → Option Value) : List Tree → Option (List Value)
  | [] => some []
  | item :: rest =>
      match read item, each? read rest with
      | some value, some values => some (value :: values)
      | _, _ => none

def list? {Value : Type} (read : Tree → Option Value) : Tree → Option (List Value)
  | .array items => each? read items
  | _ => none

end Turnstile.Json.Tree
