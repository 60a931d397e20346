import Turnstile.Policy.Source.Term
set_option autoImplicit false

/-! Reading rules. A rule has a head and perhaps a body; further bodies and branches may
follow. -/

namespace Turnstile.Policy

inductive HeadStep where
  | field (name : String)
  | place (term : Term)

namespace HeadStep

def field? : HeadStep → Option String
  | field name => some name
  | place (.constant (.string name)) => some name
  | place _ => none

def term : HeadStep → Term
  | field name => .constant (.string name)
  | place term => term

end HeadStep

/-- The head of a rule: its name, the steps behind it and its parameters. -/
structure Head where
  name : String
  steps : List HeadStep
  parameters : Option (List Term)

namespace Head

def path (head : Head) : List String :=
  head.name :: (head.steps.takeWhile fun step => step.field?.isSome).filterMap HeadStep.field?

def keys (head : Head) : List Term :=
  (head.steps.dropWhile fun step => step.field?.isSome).map HeadStep.term

def splitLast? (head : Head) : Option (Head × Term) :=
  match head.steps.getLast? with
  | some (.place term) => some ({ head with steps := head.steps.dropLast }, term)
  | _ => none

end Head

def readHeadSteps (dialect : Dialect) : (budget : Nat) → Reader (List HeadStep)
  | 0, _ => none
  | budget + 1, tokens =>
      match tokens with
      | ⟨.sign ".", true, _⟩ :: ⟨.word word, true, _⟩ :: rest =>
          (dialect.name? word).bind fun field =>
            (readHeadSteps dialect budget rest).map fun (steps, rest) =>
              (.field field :: steps, rest)
      | ⟨.sign "[", true, _⟩ :: rest =>
          match readLevel dialect (budgetOf rest) membershipLevel rest with
          | some (term, ⟨.sign "]", _, _⟩ :: rest) =>
              (readHeadSteps dialect budget rest).map fun (steps, rest) =>
                (.place term :: steps, rest)
          | _ => none
      | rest => some ([], rest)

def rootNames : List String := ["input", "data"]

def readHeadOf (dialect : Dialect) : Reader Head := fun tokens =>
  match readName dialect tokens with
  | none => none
  | some (name, rest) =>
      if dialect.strict && rootNames.contains name then none
      else
        match readHeadSteps dialect (rest.length + 1) rest with
        | none => none
        | some (steps, ⟨.sign "(", _, _⟩ :: rest) =>
            (readItems dialect (budgetOf rest) ")" rest).map fun (parameters, rest) =>
              (⟨name, steps, some parameters⟩, rest)
        | some (steps, rest) => some (⟨name, steps, none⟩, rest)

def readGives : Reader Unit
  | ⟨.sign ":=", _, _⟩ :: rest => some ((), rest)
  | ⟨.sign "=", _, _⟩ :: rest => some ((), rest)
  | _ => none

def readGiven (dialect : Dialect) : Reader (Option Term) := fun tokens =>
  match readGives tokens with
  | some ((), rest) => (readValue dialect rest).map fun (value, rest) => (some value, rest)
  | none => some (none, tokens)

/-- Read a body in braces, or one that is a single literal. Braces that hold no query
are a value. -/
def readBody (dialect : Dialect) : Reader (List Literal) := fun tokens =>
  let query := match readSign "\x7b" tokens with
    | some ((), rest) => readWholeQuery dialect (some "\x7d") rest
    | none => none
  match query with
  | some (query, rest) => some (query, rest)
  | none =>
      (readLiteral dialect (budgetOf tokens) tokens).map fun (literal, rest) =>
        (literal.split, rest)

/-- Read a body, if one comes: behind the keyword, or in braces where the keyword is not
asked for. -/
def readCondition? (dialect : Dialect) : Reader (Option (List Literal)) := fun tokens =>
  match readImported dialect "if" tokens with
  | some ((), rest) => (readBody dialect rest).map fun (body, rest) => (some body, rest)
  | none =>
      match readSign "\x7b" tokens with
      | some ((), rest) =>
          if dialect.strict then none
          else
            (readWholeQuery dialect (some "\x7d") rest).map fun (body, rest) => (some body, rest)
      | none => some (none, tokens)

def truth : Term := .constant (.bool true)

def readBranches (dialect : Dialect) : (budget : Nat) → Reader (List Clause)
  | 0, _ => none
  | budget + 1, tokens =>
      match readWord "else" tokens with
      | none => some ([], tokens)
      | some ((), rest) =>
          match readGiven dialect rest with
          | none => none
          | some (value, rest) =>
              match readCondition? dialect rest with
              | none => none
              | some (body, rest) =>
                  if value.isNone && body.isNone then none
                  else
                    (readBranches dialect budget rest).map fun (branches, rest) =>
                      (⟨value.getD truth, body.getD []⟩ :: branches, rest)

def readBodies (dialect : Dialect) : (budget : Nat) → Reader (List (List Literal))
  | 0, _ => none
  | budget + 1, tokens =>
      match dialect.strict, readSign "\x7b" tokens with
      | false, some ((), rest) =>
          match readWholeQuery dialect (some "\x7d") rest with
          | none => none
          | some (body, rest) =>
              (readBodies dialect budget rest).map fun (bodies, rest) => (body :: bodies, rest)
      | _, _ => some ([], tokens)

/-- Read what follows a head with a value: a body, further bodies and branches. Every
further body is a definition of its own; the branches belong to the last one. -/
def readDefinitions (dialect : Dialect) (value : Term) : Reader (Bool × List (List Clause)) :=
  fun tokens =>
    match readCondition? dialect tokens with
    | none => none
    | some (none, rest) => some ((false, [[⟨value, []⟩]]), rest)
    | some (some body, rest) =>
        match readBodies dialect (rest.length + 1) rest with
        | none => none
        | some (bodies, rest) =>
            (readBranches dialect (rest.length + 1) rest).map fun (branches, rest) =>
              let clauses := (body :: bodies).map fun body => [⟨value, body⟩]
              ((true, clauses.dropLast ++ [clauses.getLastD [] ++ branches]), rest)

def definitionsOf (path : List String) (keys : List Term) (parameters : Option (List Term))
    (isMember : Bool) (clauses : List (List Clause)) : List RuleText :=
  clauses.map fun clauses => .definition ⟨path, keys, parameters, isMember, clauses⟩

def readMember (dialect : Dialect) (head : Head) : Reader (List RuleText) := fun tokens =>
  match readValue dialect tokens with
  | none => none
  | some (member, rest) =>
      (readDefinitions dialect member rest).map fun ((_, clauses), rest) =>
        (definitionsOf head.path head.keys none true clauses, rest)

/-- The head and the member of a head that ends in a step in brackets, where no keyword
marks members and bodies. -/
def memberOf? (dialect : Dialect) (head : Head) (tokens : List Token) : Option (Head × Term) :=
  if dialect.strict || head.parameters.isSome || (readImported dialect "if" tokens).isSome then
    none
  else head.splitLast?

/-- Read a rule behind its head. Without a value of its own it needs a body and has the
value true. -/
def readRest (dialect : Dialect) (head : Head) : Reader (List RuleText) := fun tokens =>
  match readGiven dialect tokens with
  | none => none
  | some (some value, rest) =>
      (readDefinitions dialect value rest).map fun ((_, clauses), rest) =>
        (definitionsOf head.path head.keys head.parameters false clauses, rest)
  | some (none, rest) =>
      match memberOf? dialect head rest with
      | some (head, member) =>
          (readDefinitions dialect member rest).map fun ((_, clauses), rest) =>
            (definitionsOf head.path head.keys none true clauses, rest)
      | none =>
          match readDefinitions dialect truth rest with
          | some ((true, clauses), rest) =>
              some (definitionsOf head.path head.keys head.parameters false clauses, rest)
          | _ => none

def readRule (dialect : Dialect) : Reader (List RuleText) := fun tokens =>
  match readWord "default" tokens with
  | some ((), rest) =>
      match readHeadOf dialect rest with
      | none => none
      | some (head, rest) =>
          match readGives rest with
          | none => none
          | some ((), rest) =>
              (readPlain dialect rest).map fun (value, rest) => ([.default head.path value], rest)
  | none =>
      match readHeadOf dialect tokens with
      | none => none
      | some (head, rest) =>
          match readImported dialect "contains" rest with
          | some ((), rest) => readMember dialect head rest
          | none => readRest dialect head rest

def readRules (dialect : Dialect) : (budget : Nat) → List Token → Option (List RuleText)
  | _, [] => some []
  | 0, _ :: _ => none
  | budget + 1, tokens =>
      match readRule dialect tokens with
      | none => none
      | some (rules, rest) => (readRules dialect budget rest).map (rules ++ ·)

end Turnstile.Policy
