import Turnstile.Policy.Source.Rule
set_option autoImplicit false

/-! Reading sources: a package, its imports and its rules. An import gives a path from
the root a name, or makes words keywords for all that follows. -/

namespace Turnstile.Policy

def readAlias (dialect : Dialect) (path : List String) : Reader String := fun tokens =>
  match readWord "as" tokens with
  | some ((), rest) =>
      match readName dialect rest with
      | none => none
      | some (name, rest) => if name = "_" then none else some (name, rest)
  | none => (path.getLast?).map fun name => (name, tokens)

def readImports : (budget : Nat) → Dialect → Reader (Dialect × List (String × List String))
  | 0, _, _ => none
  | budget + 1, dialect, tokens =>
      match readWord "import" tokens with
      | none => some ((dialect, []), tokens)
      | some ((), rest) =>
          match readPath dialect rest with
          | none => none
          | some (["rego", "v1"], rest) =>
              (dialect.addKeywords? Dialect.importable).bind fun dialect =>
                readImports budget { dialect with strict := true } rest
          | some ("future" :: "keywords" :: words, rest) =>
              if 1 < words.length then none
              else
                let added := if words.isEmpty then Dialect.importable else words
                (dialect.addKeywords? added).bind fun dialect => readImports budget dialect rest
          | some (root :: path, rest) =>
              if rootNames.contains root then
                match readAlias dialect (root :: path) rest with
                | none => none
                | some (name, rest) =>
                    (readImports budget dialect rest).map fun ((dialect, imports), rest) =>
                      ((dialect, (name, root :: path) :: imports), rest)
              else none
          | some ([], _) => none

namespace Source

def ofTokens? (tokens : List Token) : Option Source := do
  let ((), tokens) ← readWord "package" tokens
  let (package, tokens) ← readPath .plain tokens
  let ((dialect, imports), tokens) ← readImports (tokens.length + 1) .plain tokens
  let rules ← readRules dialect tokens.length tokens
  return ⟨package, imports, rules⟩

def parse? (text : String) : Option Source := (Token.scan? text.toList).bind ofTokens?

end Source

end Turnstile.Policy
