import Turnstile.Json.Printer
import Turnstile.Json.Record
import Turnstile.Rsa.Basic
set_option autoImplicit false

/-! Token headers. A header is read twice: first for the two members that choose
the key, then in full, where every member of the standard must have its type and
every other member must be a string. -/

namespace Turnstile.Jws

inductive Algorithm where
  | hs256
  | hs384
  | hs512
  | es256
  | es384
  | rs256
  | rs384
  | rs512
  | ps256
  | ps384
  | ps512
  | edDsa
  deriving DecidableEq, Repr

namespace Algorithm

def name : Algorithm → String
  | hs256 => "HS256"
  | hs384 => "HS384"
  | hs512 => "HS512"
  | es256 => "ES256"
  | es384 => "ES384"
  | rs256 => "RS256"
  | rs384 => "RS384"
  | rs512 => "RS512"
  | ps256 => "PS256"
  | ps384 => "PS384"
  | ps512 => "PS512"
  | edDsa => "EdDSA"

def all : List Algorithm :=
  [hs256, hs384, hs512, es256, es384, rs256, rs384, rs512, ps256, ps384, ps512, edDsa]

def ofName? (text : String) : Option Algorithm := all.find? fun algorithm => algorithm.name = text

def hash? : Algorithm → Option Rsa.Hash
  | rs256 => some .sha256
  | rs384 => some .sha384
  | rs512 => some .sha512
  | _ => none

end Algorithm

structure KeyHint where
  algorithm : String
  kid : String
  deriving DecidableEq, Repr

namespace KeyHint

/-- Read a hint from an object, whatever else it holds, or from an array of the
two values. -/
def ofTree? : Json.Tree → Option KeyHint
  | .object members => do
      let members ← Json.Tree.namedMembers? members
      if !Json.Tree.eachAtMostOnce ["alg", "kid"] members then none
      let algorithm ← Json.Tree.required? "alg" Json.Tree.text? members
      let kid ← Json.Tree.required? "kid" Json.Tree.text? members
      return ⟨algorithm, kid⟩
  | .array [algorithm, kid] => do
      return ⟨← algorithm.text?, ← kid.text?⟩
  | _ => none

end KeyHint

namespace Header

def textKeys : List String :=
  ["typ", "cty", "jku", "kid", "x5u", "x5t", "x5t#S256", "url", "nonce", "enc", "zip"]

def listKeys : List String := ["x5c", "crit"]

def isOptionalText (tree : Json.Tree) : Bool := tree.optionalText?.isSome

def isOptionalTextList : Json.Tree → Bool
  | .null => true
  | tree => (tree.list? Json.Tree.text?).isSome

def memberText? (key : String) (members : List (String × Json.Tree)) : Option String :=
  Json.Tree.required? key Json.Tree.text? members

/-- The members that a key of some type must have, each once and a string. -/
def keyMembers? : (keyType : String) → Option (List String)
  | "EC" => some ["kty", "crv", "x", "y"]
  | "RSA" => some ["kty", "n", "e"]
  | "oct" => some ["kty", "k"]
  | "OKP" => some ["kty", "crv", "x"]
  | _ => none

def curves : List String := ["P-256", "P-384", "P-521", "Ed25519"]

def keyTextKeys : List String := ["use", "alg", "kid", "x5u", "x5t", "x5t#S256"]

def keyListKeys : List String := ["key_ops", "x5c"]

/-- Whether members make a key: a type with its members, and what else a key may
have. -/
def isKeyObject (members : List (String × Json.Tree)) : Bool :=
  match (memberText? "kty" members).bind keyMembers? with
  | none => false
  | some needed =>
      Json.Tree.eachAtMostOnce (needed ++ keyTextKeys ++ keyListKeys) members &&
        needed.all (fun key => (memberText? key members).isSome) &&
        (!needed.contains "crv" || ((memberText? "crv" members).any curves.contains)) &&
        members.all fun (key, tree) =>
          (!keyTextKeys.contains key || isOptionalText tree) &&
            (!keyListKeys.contains key || isOptionalTextList tree)

/-- Whether a tree is a key or null. A key counts as built, so its depth is
limited. -/
def isOptionalKey : Json.Tree → Bool
  | .null => true
  | .object members =>
      ((Json.Tree.object members).build? (Json.depthLimit - 1)).isSome &&
        (Json.Tree.namedMembers? members).any isKeyObject
  | _ => false

def isWellTyped (key : String) (tree : Json.Tree) : Bool :=
  if textKeys.contains key then isOptionalText tree
  else if listKeys.contains key then isOptionalTextList tree
  else if key = "jwk" then isOptionalKey tree
  else tree.text?.isSome

def algorithm? : Json.Tree → Option Algorithm
  | .object members => do
      let members ← Json.Tree.namedMembers? members
      if !Json.Tree.eachAtMostOnce ("alg" :: "jwk" :: textKeys ++ listKeys) members then none
      if !members.all (fun (key, tree) => isWellTyped key tree) then none
      let name ← memberText? "alg" members
      Algorithm.ofName? name
  | _ => none

def render (algorithm : Algorithm) (kid : String) : List Char :=
  Json.render (.object
    [("typ", .string "JWT"), ("alg", .string algorithm.name), ("kid", .string kid)])

end Header

end Turnstile.Jws
