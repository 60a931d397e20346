import Turnstile.Policy.Source.Reader
set_option autoImplicit false

/-! Reading terms and queries. Operators of one level read their operands from the left;
membership binds loosest, then comparison, the operators of sets, sums and
products. A bar behind the first term in brackets starts a query, if one follows,
and else it is the union of sets. A budget bounds how deep terms nest. -/

namespace Turnstile.Policy

namespace Operator

def ofSign? : (level : Nat) → String → Option Operator
  | 1, "==" => some equal
  | 1, "!=" => some unequal
  | 1, "<" => some less
  | 1, "<=" => some atMost
  | 1, ">" => some greater
  | 1, ">=" => some atLeast
  | 2, "|" => some union
  | 3, "&" => some intersection
  | 4, "+" => some add
  | 4, "-" => some subtract
  | 5, "*" => some multiply
  | 5, "/" => some divide
  | 5, "%" => some remainder
  | _, _ => none

end Operator

def membershipLevel : Nat := 0

def comparisonLevel : Nat := 1

/-- The level of sums. The head of a query is a term of this level. -/
def sumLevel : Nat := 4

def referenceLevel : Nat := 6

def readOperator (dialect : Dialect) (level : Nat) : Reader (Term → Term → Term)
  | ⟨.sign text, _, _⟩ :: rest =>
      (Operator.ofSign? level text).map fun operator => (.operation operator, rest)
  | ⟨.word "in", _, _⟩ :: rest =>
      if level = membershipLevel && dialect.has "in" then some (.within, rest) else none
  | _ => none

def negated : Term → Term
  | .constant (.number value) =>
      if value.significand < 0 then .negate (.constant (.number value))
      else .constant (.number value.neg)
  | term => .negate term

def wordConstant? (word : String) : Option Value :=
  if word = "true" then some (.bool true)
  else if word = "false" then some (.bool false)
  else if word = "null" then some .null
  else none

def fieldOf (base : Term) (field : String) : Term :=
  match base with
  | .path name fields => .path name (fields ++ [field])
  | base => .index base (.constant (.string field))

def placeOf (base place : Term) : Term :=
  match place with
  | .constant (.string field) => fieldOf base field
  | place => .index base place

def functionOf? : Term → Option (List String)
  | .path name fields => some (name :: fields)
  | _ => none

/-- The name that a word stands for in a term. Every underscore is a name of its own, told
from others by the number of tokens behind it. -/
def nameOf (word : String) (behind : Nat) : String :=
  if word = "_" then wildcard "" behind else word

/-- Whether a word is the name of a function here although it is a keyword. -/
def isCalled (word : String) (behind : List Token) : Bool :=
  word == "contains" && (readSign "(" behind).isSome

/-- Whether a literal may start in front of some tokens, another one having ended
there. -/
def beginsLine : List Token → Bool
  | token :: _ => token.begins
  | [] => false

/-- Read the end of a query: a closing sign, or the end of the text if there is none. -/
def readEnd (closing : Option String) : Reader Unit := fun tokens =>
  match closing with
  | some sign => readSign sign tokens
  | none => if tokens.isEmpty then some ((), tokens) else none

mutual

/-- Read a term whose operators bind at least as tightly as those of a level. -/
def readLevel (dialect : Dialect) : (budget level : Nat) → Reader Term
  | 0, _, _ => none
  | budget + 1, level, tokens =>
      if referenceLevel ≤ level then readReference dialect budget tokens
      else
        match readLevel dialect budget (level + 1) tokens with
        | none => none
        | some (left, rest) => readOperands dialect budget level left rest

def readOperands (dialect : Dialect) : (budget level : Nat) → (left : Term) → Reader Term
  | 0, _, _, _ => none
  | budget + 1, level, left, tokens =>
      match readOperator dialect level tokens with
      | none => some (left, tokens)
      | some (join, rest) =>
          match readLevel dialect budget (level + 1) rest with
          | none => none
          | some (right, rest) => readOperands dialect budget level (join left right) rest

/-- Read the operators of a level and of every looser one behind an operand. -/
def readLooser (dialect : Dialect) : (budget level : Nat) → (left : Term) → Reader Term
  | 0, _, _, _ => none
  | budget + 1, level, left, tokens =>
      match readOperands dialect budget level left tokens with
      | none => none
      | some (left, rest) =>
          match level with
          | 0 => some (left, rest)
          | level + 1 => readLooser dialect budget level left rest

def readReference (dialect : Dialect) : (budget : Nat) → Reader Term
  | 0, _ => none
  | budget + 1, tokens =>
      match readSign "-" tokens with
      | some ((), rest) =>
          (readLevel dialect budget membershipLevel rest).map fun (term, rest) =>
            (negated term, rest)
      | none =>
          match readPrimary dialect budget tokens with
          | none => none
          | some (base, rest) => readSteps dialect budget (functionOf? base).isSome base rest

/-- Read fields, places and arguments behind a term. Only names and their fields can be
called. -/
def readSteps (dialect : Dialect) : (budget : Nat) → (isName : Bool) → (base : Term) →
    Reader Term
  | 0, _, _, _ => none
  | budget + 1, isName, base, tokens =>
      match tokens with
      | ⟨.sign ".", true, _⟩ :: ⟨.word word, true, _⟩ :: rest =>
          match dialect.name? word with
          | none => none
          | some field => readSteps dialect budget isName (fieldOf base field) rest
      | ⟨.sign "[", true, _⟩ :: rest =>
          match readLevel dialect budget membershipLevel rest with
          | some (place, ⟨.sign "]", _, _⟩ :: rest) =>
              readSteps dialect budget false (placeOf base place) rest
          | _ => none
      | ⟨.sign "(", joined, begins⟩ :: rest =>
          match isName, functionOf? base with
          | true, some function =>
              match readItems dialect budget ")" rest with
              | none => none
              | some (arguments, rest) =>
                  readSteps dialect budget false (.call function arguments) rest
          | _, _ => some (base, ⟨.sign "(", joined, begins⟩ :: rest)
      | tokens => some (base, tokens)

def readPrimary (dialect : Dialect) : (budget : Nat) → Reader Term
  | 0, _ => none
  | budget + 1, tokens =>
      match tokens with
      | ⟨.string text, _, _⟩ :: rest => some (.constant (.string text), rest)
      | ⟨.number value, _, _⟩ :: rest => some (.constant (.number value), rest)
      | ⟨.sign "set()", _, _⟩ :: rest => some (.set [], rest)
      | ⟨.sign "(", _, _⟩ :: rest =>
          match readMembership dialect budget rest with
          | some (term, ⟨.sign ")", _, _⟩ :: rest) => some (term, rest)
          | _ => none
      | ⟨.sign "[", _, _⟩ :: ⟨.sign "]", _, _⟩ :: rest => some (.array [], rest)
      | ⟨.sign "[", _, _⟩ :: rest =>
          match readHead dialect budget "]" rest with
          | none => none
          | some ((item, some query), rest) => some (.arrayOf item query, rest)
          | some ((first, none), rest) =>
              (readMore dialect budget "]" rest).map fun (items, rest) =>
                (.array (first :: items), rest)
      | ⟨.sign "\x7b", _, _⟩ :: ⟨.sign "\x7d", _, _⟩ :: rest => some (.object [], rest)
      | ⟨.sign "\x7b", _, _⟩ :: rest =>
          match readHead dialect budget "\x7d" rest with
          | none => none
          | some ((item, some query), rest) => some (.setOf item query, rest)
          | some ((key, none), ⟨.sign ":", _, _⟩ :: rest) =>
              match readHead dialect budget "\x7d" rest with
              | none => none
              | some ((value, some query), rest) => some (.objectOf key value query, rest)
              | some ((value, none), rest) =>
                  (readMoreMembers dialect budget rest).map fun (members, rest) =>
                    (.object ((key, value) :: members), rest)
          | some ((first, none), rest) =>
              (readMore dialect budget "\x7d" rest).map fun (items, rest) =>
                (.set (first :: items), rest)
      | ⟨.word word, _, _⟩ :: rest =>
          match wordConstant? word with
          | some value => some (.constant value, rest)
          | none =>
              if dialect.isKeyword word && !isCalled word rest then none
              else some (.path (nameOf word rest.length) [], rest)
      | _ => none

def readHead (dialect : Dialect) : (budget : Nat) → (closing : String) →
    Reader (Term × Option (List Literal))
  | 0, _, _ => none
  | budget + 1, closing, tokens =>
      match readLevel dialect budget sumLevel tokens with
      | none => none
      | some (head, rest) =>
          let query := match readSign "|" rest with
            | some ((), rest) => readQuery dialect budget (some closing) rest
            | none => none
          match query with
          | some (query, rest) => some ((head, some query), rest)
          | none =>
              (readLooser dialect budget (sumLevel - 1) head rest).map fun (term, rest) =>
                ((term, none), rest)

def readItems (dialect : Dialect) : (budget : Nat) → (closing : String) → Reader (List Term)
  | 0, _, _ => none
  | budget + 1, closing, tokens =>
      match readSign closing tokens with
      | some ((), rest) => some ([], rest)
      | none =>
          match readLevel dialect budget membershipLevel tokens with
          | none => none
          | some (item, rest) =>
              (readMore dialect budget closing rest).map fun (items, rest) => (item :: items, rest)

def readMore (dialect : Dialect) : (budget : Nat) → (closing : String) → Reader (List Term)
  | 0, _, _ => none
  | budget + 1, closing, tokens =>
      match readSign closing tokens, readSign "," tokens with
      | some ((), rest), _ => some ([], rest)
      | none, some ((), rest) => readItems dialect budget closing rest
      | none, none => none

def readMoreMembers (dialect : Dialect) : (budget : Nat) → Reader (List (Term × Term))
  | 0, _ => none
  | budget + 1, tokens =>
      match tokens with
      | ⟨.sign "\x7d", _, _⟩ :: rest => some ([], rest)
      | ⟨.sign ",", _, _⟩ :: ⟨.sign "\x7d", _, _⟩ :: rest => some ([], rest)
      | ⟨.sign ",", _, _⟩ :: rest =>
          match readLevel dialect budget membershipLevel rest with
          | some (key, ⟨.sign ":", _, _⟩ :: rest) =>
              match readLevel dialect budget membershipLevel rest with
              | none => none
              | some (value, rest) =>
                  (readMoreMembers dialect budget rest).map fun (members, rest) =>
                    ((key, value) :: members, rest)
          | _ => none
      | _ => none

def readMembership (dialect : Dialect) : (budget : Nat) → Reader Term
  | 0, _ => none
  | budget + 1, tokens =>
      match readLevel dialect budget comparisonLevel tokens with
      | none => none
      | some (left, rest) =>
          let keyed := match readSign "," rest with
            | none => none
            | some ((), rest) =>
                match readLevel dialect budget comparisonLevel rest with
                | none => none
                | some (item, rest) =>
                    match readImported dialect "in" rest with
                    | none => none
                    | some ((), rest) =>
                        (readLevel dialect budget comparisonLevel rest).map
                          fun (collection, rest) => (Term.withinAt left item collection, rest)
          match keyed with
          | some (term, rest) => readOperands dialect budget membershipLevel term rest
          | none => readOperands dialect budget membershipLevel left rest

def readQuery (dialect : Dialect) : (budget : Nat) → (closing : Option String) →
    Reader (List Literal)
  | 0, _, _ => none
  | budget + 1, closing, tokens =>
      match readLiteral dialect budget tokens with
      | none => none
      | some (literal, rest) =>
          match readEnd closing rest, readSign ";" rest with
          | some ((), rest), _ => some (literal.split, rest)
          | none, some ((), rest) =>
              (readQuery dialect budget closing rest).map fun (literals, rest) =>
                (literal.split ++ literals, rest)
          | none, none =>
              if beginsLine rest then
                (readQuery dialect budget closing rest).map fun (literals, rest) =>
                  (literal.split ++ literals, rest)
              else none

def readLiteral (dialect : Dialect) : (budget : Nat) → Reader Literal
  | 0, _ => none
  | budget + 1, tokens =>
      let literal := match tokens with
        | ⟨.word "some", _, _⟩ :: rest => readSome dialect budget [] rest
        | ⟨.word "not", _, _⟩ :: rest =>
            (readMembership dialect budget rest).map fun (term, rest) => (.fails term, rest)
        | tokens =>
            match readImported dialect "every" tokens with
            | some ((), rest) => readEvery dialect budget rest
            | none => readCondition dialect budget tokens
      match literal with
      | none => none
      | some (literal, rest) => readChanges dialect budget literal rest

def readCondition (dialect : Dialect) : (budget : Nat) → Reader Literal
  | 0, _ => none
  | budget + 1, tokens =>
      match readMembership dialect budget tokens with
      | none => none
      | some (term, ⟨.sign ":=", _, _⟩ :: rest) =>
          (readMembership dialect budget rest).map fun (value, rest) => (.assign term value, rest)
      | some (term, ⟨.sign "=", _, _⟩ :: rest) =>
          (readMembership dialect budget rest).map fun (value, rest) => (.unify term value, rest)
      | some (term, rest) => some (.holds term, rest)

/-- Read new names, or an item that a collection has, behind the terms before. Without
a key, any key will do. -/
def readSome (dialect : Dialect) : (budget : Nat) → (before : List Term) → Reader Literal
  | 0, _, _ => none
  | budget + 1, before, tokens =>
      match readLevel dialect budget referenceLevel tokens with
      | none => none
      | some (term, ⟨.sign ",", _, _⟩ :: rest) => readSome dialect budget (before ++ [term]) rest
      | some (term, rest) =>
          match readImported dialect "in" rest with
          | some ((), rest) =>
              match before, readLevel dialect budget comparisonLevel rest with
              | [], some (collection, behind) =>
                  some (.choose (.path (wildcard "key " rest.length) []) term collection, behind)
              | [key], some (collection, behind) => some (.choose key term collection, behind)
              | _, _ => none
          | none =>
              let names := before ++ [term]
              if names.all fun name => name.targets.length = 1 && (functionOf? name).isSome then
                some (.declare (names.flatMap Term.targets), rest)
              else none

def readEvery (dialect : Dialect) : (budget : Nat) → Reader Literal
  | 0, _ => none
  | budget + 1, tokens =>
      let names := match readName dialect tokens with
        | none => none
        | some (first, ⟨.sign ",", _, _⟩ :: rest) =>
            (readName dialect rest).map fun (second, rest) => ((first, second), rest)
        | some (first, rest) => some ((wildcard "key " rest.length, first), rest)
      match names with
      | none => none
      | some ((key, item), rest) =>
          match readImported dialect "in" rest with
          | none => none
          | some ((), rest) =>
              match readLevel dialect budget comparisonLevel rest with
              | some (collection, ⟨.sign "\x7b", _, _⟩ :: rest) =>
                  (readQuery dialect budget (some "\x7d") rest).map fun (query, rest) =>
                    (.every key item collection query, rest)
              | _ => none

def readChanges (dialect : Dialect) : (budget : Nat) → (literal : Literal) → Reader Literal
  | 0, _, _ => none
  | budget + 1, literal, tokens =>
      match readWord "with" tokens with
      | none => some (literal, tokens)
      | some ((), rest) =>
          match readPath dialect rest with
          | none => none
          | some (path, rest) =>
              match readWord "as" rest with
              | none => none
              | some ((), rest) =>
                  match readLevel dialect budget membershipLevel rest with
                  | none => none
                  | some (term, rest) =>
                      readChanges dialect budget (.changed literal path term) rest

end

def budgetOf (tokens : List Token) : Nat := 16 * tokens.length + 16

def readValue (dialect : Dialect) : Reader Term := fun tokens =>
  readMembership dialect (budgetOf tokens) tokens

def readPlain (dialect : Dialect) : Reader Term := fun tokens =>
  readLevel dialect (budgetOf tokens) referenceLevel tokens

def readWholeQuery (dialect : Dialect) (closing : Option String) : Reader (List Literal) :=
  fun tokens => readQuery dialect (budgetOf tokens) closing tokens

namespace Literal

def queryOf? (text : String) : Option (List Literal) := do
  let tokens ← Token.scan? text.toList
  let (query, _) ← readWholeQuery .plain none tokens
  return query

end Literal

end Turnstile.Policy
