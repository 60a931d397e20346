import Turnstile.Policy.Link
set_option autoImplicit false

/-! From sources to modules. All that a source says of one rule becomes one group. A
source in which some name has no meaning, a default is not written out, or the
definitions of a rule are of several kinds has no module. -/

namespace Turnstile.Policy

namespace Clause

def link (clause : Clause) (keys : List Term) : Linker Branch :=
  (linkQuery clause.body (linkLiterals clause.body) (termsNames keys ++ clause.value.names)
      ((linkTerms keys).andThen fun keys => clause.value.link.map fun value =>
        (keys, value))).apart.map
    fun (body, keys, value) => ⟨body, keys, value⟩

end Clause

def linkClauses (keys : List Term) : List Clause → Linker (List Branch)
  | [] => .pure []
  | clause :: rest =>
      (clause.link keys).andThen fun branch =>
        (linkClauses keys rest).map fun branches => branch :: branches

namespace DefinitionText

def kind (text : DefinitionText) : RuleKind :=
  if text.parameters.isSome then .function
  else if text.isMember then .members
  else if text.keys.isEmpty then .single
  else .entries

/-- Link a definition. Its parameters are names for all its branches. -/
def link? (text : DefinitionText) (names : Names) : Option Definition :=
  let parameters := text.parameters.getD []
  let linker := ((linkPatterns parameters).andThen fun patterns =>
    (linkClauses text.keys text.clauses).map fun branches =>
      (⟨patterns, branches⟩ : Definition)).within (termsTargets parameters)
  (linker ⟨names, []⟩ ⟨[], []⟩).map Prod.fst

end DefinitionText

/-- Definitions that may stand in one group: the kind they have together. -/
def RuleKind.join? : RuleKind → RuleKind → Option RuleKind
  | .single, .entries => some .entries
  | .entries, .single => some .entries
  | left, right => if left = right then some left else none

namespace RuleText

def path : RuleText → List String
  | default path _ => path
  | definition text => text.path

/-- Add to a group what is said of its rule. Of several defaults the first one counts. -/
def addTo? (text : RuleText) (names : Names) (rule : RuleGroup) : Option RuleGroup :=
  match text with
  | default _ value =>
      if value.isConstant then
        ((value.link.apart ⟨names, []⟩ ⟨[], []⟩).map fun ((_, value), _) =>
          { rule with default := rule.default <|> some value })
      else none
  | definition text => do
      let added ← text.link? names
      let kind ← if rule.definitions.isEmpty then some text.kind else rule.kind.join? text.kind
      return { rule with kind := kind, definitions := rule.definitions ++ [added] }

def insertInto? (text : RuleText) (names : Names) : List RuleGroup → Option (List RuleGroup)
  | [] => (text.addTo? names ⟨text.path, .single, none, []⟩).map fun rule => [rule]
  | rule :: rest =>
      if rule.path = text.path then (text.addTo? names rule).map fun rule => rule :: rest
      else (text.insertInto? names rest).map fun rest => rule :: rest

def function? : RuleText → Option (List String)
  | definition text => if text.parameters.isSome then some text.path else none
  | default _ _ => none

end RuleText

namespace Source

def names (source : Source) : Names where
  package := source.package
  rules := source.rules.filterMap fun rule => rule.path.head?
  functions := source.rules.filterMap RuleText.function?
  imports := source.imports

def groups? (names : Names) : List RuleGroup → List RuleText → Option (List RuleGroup)
  | groups, [] => some groups
  | groups, text :: rest =>
      match text.insertInto? names groups with
      | some groups => groups? names groups rest
      | none => none

def link? (source : Source) : Option Module :=
  (groups? source.names [] source.rules).map fun rules => ⟨source.package, rules⟩

end Source

namespace Literal

def linkAlone? (query : List Literal) : Option (List Statement) :=
  (((linkQuery query (linkLiterals query) [] (.pure ())).apart) ⟨⟨[], [], [], []⟩, []⟩
    ⟨[], []⟩).map fun ((body, ()), _) => body

end Literal

end Turnstile.Policy
