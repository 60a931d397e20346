import Turnstile.Policy.Lexeme
import Turnstile.Policy.Syntax
set_option autoImplicit false

/-! Reading tokens. A reader takes tokens and leaves those behind what it has read.
Which words are keywords depends on what a source imports. -/

namespace Turnstile.Policy

abbrev Reader (Result : Type) := List Token → Option (Result × List Token)

/-- What a source has said about the language it is written in. -/
structure Dialect where
  keywords : List String
  /-- Every body follows a keyword, and no rule has the name of a root. -/
  strict : Bool

namespace Dialect

def plain : Dialect := ⟨[], false⟩

def importable : List String := ["contains", "every", "if", "in"]

def reserved : List String :=
  ["as", "default", "else", "false", "import", "not", "null", "package", "some", "true", "with"]

def addKeywords? (dialect : Dialect) (words : List String) : Option Dialect :=
  if words.all fun word => importable.contains word && !dialect.keywords.contains word then
    some { dialect with keywords := words ++ dialect.keywords }
  else none

def has (dialect : Dialect) (word : String) : Bool := dialect.keywords.contains word

def isKeyword (dialect : Dialect) (word : String) : Bool :=
  reserved.contains word || dialect.has word

def name? (dialect : Dialect) (word : String) : Option String :=
  if dialect.isKeyword word then none else some word

end Dialect

def readSign (text : String) : Reader Unit
  | ⟨.sign found, _, _⟩ :: rest => if found = text then some ((), rest) else none
  | _ => none

def readWord (text : String) : Reader Unit
  | ⟨.word found, _, _⟩ :: rest => if found = text then some ((), rest) else none
  | _ => none

def readImported (dialect : Dialect) (text : String) : Reader Unit := fun tokens =>
  if dialect.has text then readWord text tokens else none

def readName (dialect : Dialect) : Reader String
  | ⟨.word text, _, _⟩ :: rest => (dialect.name? text).map fun name => (name, rest)
  | _ => none

/-- Read the steps of a path behind its first name, as many as there are. Nothing
stands between them. -/
def readFields (dialect : Dialect) : (budget : Nat) → Reader (List String)
  | 0, _ => none
  | budget + 1, tokens =>
      match tokens with
      | ⟨.sign ".", true, _⟩ :: ⟨.word word, true, _⟩ :: rest =>
          (dialect.name? word).bind fun field =>
            (readFields dialect budget rest).map fun (fields, rest) => (field :: fields, rest)
      | ⟨.sign ".", _, _⟩ :: _ => none
      | ⟨.sign "[", true, _⟩ :: ⟨.string field, _, _⟩ :: ⟨.sign "]", _, _⟩ :: rest =>
          (readFields dialect budget rest).map fun (fields, rest) => (field :: fields, rest)
      | rest => some ([], rest)

def readPath (dialect : Dialect) : Reader (List String) := fun tokens =>
  match readName dialect tokens with
  | none => none
  | some (name, rest) =>
      (readFields dialect (rest.length + 1) rest).map fun (fields, rest) => (name :: fields, rest)

end Turnstile.Policy
