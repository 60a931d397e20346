import Turnstile.Policy.Engine
import Turnstile.Proofs.Policy.Layout
import Turnstile.Rsa.KeyFile
set_option autoImplicit false

/-! What prepared queries are bound to. A query for a rule of a source with nothing behind its
package asks for that very rule, when it is prepared and in every later evaluation. A comment
behind the package becomes a part of the query and hides the rule: the query asks for the whole
package, whatever rule it is prepared for. -/

namespace Turnstile.Policy

/-! ### Queries and what they ask for -/

namespace NamedModule

/-- What stands at a path in the package of a module. Where some name in the module has no
meaning, or the input cannot be handed in, that is a fault. -/
def outcomeAt (named : NamedModule) (now : Int) (input : Input) (path : List String) :
    Outcome Value :=
  match named.module, Value.enter? (.object input) with
  | some module, some entered =>
      module.document
        (fun rule => rule.eval (module.scope now module.rules.length ⟨entered, []⟩) [])
        (module.package ++ path)
  | _, _ => .fault .engine

variable {named : NamedModule} {rule : String}

theorem queryRows_eq_rowsOf {query : String} {package path : List String}
    (registered : ∀ module, named.module = some module → module.package = package)
    (scanned : Token.scan? query.toList = some (queryTokens (package ++ path)))
    (names : ∀ field ∈ package ++ path, Dialect.plain.name? field = some field) (now : Int)
    (input : Input) :
    named.queryRows query now input = rowsOf (named.outcomeAt now input path) := by
  unfold outcomeAt
  cases linked : named.module with
  | none =>
      rw [queryRows, linked]
      rfl
  | some module =>
      cases enters : Value.enter? (.object input) with
      | none =>
          rw [queryRows, linked, enters]
          rfl
      | some entered =>
          rw [← registered module linked] at scanned names
          exact queryRows_of_path module entered now linked scanned names enters

end NamedModule

namespace PreparedQuery

variable {named : NamedModule} {rule : String}

/-- What preparing a query comes to when evaluation on the empty input has an outcome. -/
def trial (named : NamedModule) (rule : String) : Outcome Value → Except Error PreparedQuery
  | .value _ => .ok (ofRule named rule)
  | .undefined => .error (.unknownRule (named.queryText rule))
  | .fault cause => .error (.eval (named.name ++ ": " ++ cause.message))

theorem exists_trial_eq_ok_iff (outcome : Outcome Value) :
    (∃ prepared, trial named rule outcome = .ok prepared) ↔ ∃ value, outcome = .value value := by
  cases outcome with
  | value value => simp [trial]
  | undefined => simp [trial]
  | fault cause => simp [trial]

theorem trial_eq_unknownRule_iff (outcome : Outcome Value) (query : String) :
    trial named rule outcome = .error (.unknownRule query) ↔
      outcome = .undefined ∧ query = named.queryText rule := by
  cases outcome with
  | value value => simp [trial]
  | undefined => simp [trial, eq_comm]
  | fault cause => simp [trial]

theorem exists_trial_eq_eval_iff (outcome : Outcome Value) :
    (∃ message, trial named rule outcome = .error (.eval message)) ↔
      ∃ cause, outcome = .fault cause := by
  cases outcome with
  | value value => simp [trial]
  | undefined => simp [trial]
  | fault cause => simp [trial]

theorem eq_ofRule_of_trial {outcome : Outcome Value} {prepared : PreparedQuery}
    (succeeds : trial named rule outcome = .ok prepared) : prepared = ofRule named rule := by
  cases outcome with
  | value value =>
      cases succeeds
      rfl
  | undefined => cases succeeds
  | fault cause => cases succeeds

/-- What an evaluation comes to for a caller: an outcome counts if the caller has not given up
before or after it. -/
def answer (moduleName : String) (context : Context) (outcome : Outcome Value) :
    Except Error Rows := do
  context.before.check
  let rows ← (rowsOf outcome).mapError fun cause => .eval (moduleName ++ ": " ++ cause.message)
  context.after.check
  return rows

theorem run_ofRule {now : Int} {input : Input} {outcome : Outcome Value}
    (rows : named.queryRows (named.queryText rule) now input = rowsOf outcome) :
    (ofRule named rule).run now input =
      (rowsOf outcome).mapError fun cause => .eval (named.name ++ ": " ++ cause.message) := by
  simp only [run, ofRule, rows]
  cases outcome with
  | value value => rfl
  | undefined => rfl
  | fault cause => rfl

theorem prepare_eq_trial {now : Int} {outcome : Outcome Value}
    (rows : named.queryRows (named.queryText rule) now Input.empty = rowsOf outcome) :
    prepare now named rule = trial named rule outcome := by
  simp only [prepare, run_ofRule rows]
  cases outcome with
  | value value => rfl
  | undefined => rfl
  | fault cause => rfl

theorem eval_eq_answer {input : Input} {context : Context} {outcome : Outcome Value}
    (rows : named.queryRows (named.queryText rule) context.wallSeconds input = rowsOf outcome) :
    (ofRule named rule).eval input context = answer named.name context outcome := by
  simp only [eval, run_ofRule rows, answer]
  cases context.before.check with
  | error error => rfl
  | ok _ =>
      cases (rowsOf outcome).mapError fun cause : Fault =>
          Error.eval (named.name ++ ": " ++ cause.message) with
      | error error => rfl
      | ok rows =>
          cases context.after.check with
          | error error => rfl
          | ok _ => rfl

end PreparedQuery

namespace NamedModule

variable {named : NamedModule} {rule : String}

theorem toList_queryText {package : List Char} (packaged : named.package = String.ofList package) :
    (named.queryText rule).toList =
      resultBinding.toList ++ (" = ".toList ++ ("data".toList ++
        ('.' :: package ++ '.' :: rule.toList))) := by
  simp only [queryText, packaged, String.toList_append, String.toList_ofList, List.append_assoc]
  rfl

/-- Where the package is written as it is registered, the query for a rule is scanned to the
path of the rule. -/
theorem scan?_queryText {package : List String} (nonempty : package ≠ [])
    (packaged : named.package = ".".intercalate package)
    (names : ∀ field ∈ package ++ [rule], isName field = true) :
    Token.scan? (named.queryText rule).toList = some (queryTokens (package ++ [rule])) := by
  cases package with
  | nil => exact absurd rfl nonempty
  | cons name fields =>
      have spelled : '.' :: (name.toList ++ fieldChars fields) ++ '.' :: rule.toList =
          fieldChars (name :: fields ++ [rule]) ++ [] := by
        simp [fieldChars]
      have written : named.package = String.ofList (name.toList ++ fieldChars fields) := by
        rw [packaged, ← toList_dotted, String.ofList_toList]
      have ends : Token.EndsName [] := fun char member => by cases member
      rw [toList_queryText written, spelled]
      exact Token.scan?_query names ends rfl

end NamedModule

namespace Layout

variable {layout : Layout} {named : NamedModule} {rule : String}

/-- A comment behind the package hides the rule of a query. -/
theorem scan?_queryText_of_comment (packaged : named.package = String.ofList layout.packageText)
    {body : List Char} (comment : layout.margin.comment = some body)
    (plain : isPlainName rule = true) :
    Token.scan? (named.queryText rule).toList = some (queryTokens layout.path) := by
  have ruleInLine : Token.InLine ('.' :: rule.toList) := by
    refine List.forall_mem_cons.mpr ⟨by decide, fun char member => ?_⟩
    have part := Token.isNamePart_of_isName (isName_of_isPlainName plain) char member
    obtain ⟨low, -⟩ := Token.visible_of_isNamePart part
    refine ⟨?_, Nat.ne_of_gt (Nat.lt_of_lt_of_le (by decide) low)⟩
    rintro rfl
    exact absurd low (by decide)
  have inLine : Token.InLine (Text.trimEnd body ++ '.' :: rule.toList) := by
    intro char member
    rcases List.mem_append.mp member with inBody | inRule
    · exact layout.margin.inLine body comment char (Text.mem_of_mem_trimEnd inBody)
    · exact ruleInLine char inRule
  let hidden : Margin :=
    { blanks := layout.margin.blanks
      comment := some (Text.trimEnd body ++ '.' :: rule.toList)
      allBlank := layout.margin.allBlank
      inLine := fun other same => Option.some.inj same ▸ inLine }
  have spelled : '.' :: layout.packageText ++ '.' :: rule.toList =
      fieldChars layout.path ++ (hidden.text ++ []) := by
    rw [layout.packageText_of_comment comment]
    simp [fieldChars, path, dotted, hidden, Margin.text, Margin.commentText]
  have silent : Token.behindGap 0 (hidden.text ++ []) = some (0, []) := by
    rw [hidden.behindGap_text 0 (.inl rfl)]
    rfl
  rw [NamedModule.toList_queryText packaged, spelled]
  exact Token.scan?_query layout.names (hidden.endsName_text (.inl rfl)) silent

end Layout

/-! ### Binding -/

namespace NamedModule

/-- The queries for a rule ask for what stands at a path in the package. -/
def Asks (named : NamedModule) (rule : String) (path : List String) : Prop :=
  ∀ now input, named.queryRows (named.queryText rule) now input =
    rowsOf (named.outcomeAt now input path)

/-- No rule of the module starts with the name. -/
def Lacks (named : NamedModule) (rule : String) : Prop :=
  ∀ module, named.module = some module →
    ∀ group ∈ module.documents, group.path.head? ≠ some rule

/-- The queries of a module are bound to the rules that they name. -/
structure Bound (named : NamedModule) : Prop where
  prepares_iff : ∀ rule, isPlainName rule = true → ∀ now,
    (∃ prepared, PreparedQuery.prepare now named rule = .ok prepared) ↔
      ∃ value, named.outcomeAt now Input.empty [rule] = .value value
  unknown_iff : ∀ rule, isPlainName rule = true → ∀ now,
    PreparedQuery.prepare now named rule = .error (.unknownRule (named.queryText rule)) ↔
      named.outcomeAt now Input.empty [rule] = .undefined
  faulty_iff : ∀ rule, isPlainName rule = true → ∀ now,
    (∃ message, PreparedQuery.prepare now named rule = .error (.eval message)) ↔
      ∃ cause, named.outcomeAt now Input.empty [rule] = .fault cause
  /-- Every later evaluation asks for the rule. -/
  answers : ∀ rule, isPlainName rule = true → ∀ now prepared,
    PreparedQuery.prepare now named rule = .ok prepared → ∀ input context,
      prepared.eval input context =
        PreparedQuery.answer named.name context (named.outcomeAt context.wallSeconds input [rule])
  /-- What stands at the name of a rule is the value of that rule. -/
  rule_value : ∀ module, named.module = some module → ∀ group ∈ module.documents,
    ∀ rule, group.path = [rule] → ∀ now input entered,
      Value.enter? (.object input) = some entered →
        named.outcomeAt now input [rule] =
          group.eval (module.scope now module.rules.length ⟨entered, []⟩) []
  lacking : ∀ module, named.module = some module → ∀ rule, isPlainName rule = true →
    named.Lacks rule → ∀ now,
      PreparedQuery.prepare now named rule = .error (.unknownRule (named.queryText rule))

/-- The queries of a module ask for its package as a whole, whatever rule they name. -/
structure Unbound (named : NamedModule) : Prop where
  prepares_iff : ∀ rule, isPlainName rule = true → ∀ now,
    (∃ prepared, PreparedQuery.prepare now named rule = .ok prepared) ↔
      ∃ value, named.outcomeAt now Input.empty [] = .value value
  never_unknown : ∀ rule, isPlainName rule = true → ∀ now query,
    PreparedQuery.prepare now named rule ≠ .error (.unknownRule query)
  answers : ∀ rule, isPlainName rule = true → ∀ now prepared,
    PreparedQuery.prepare now named rule = .ok prepared → ∀ input context,
      prepared.eval input context =
        PreparedQuery.answer named.name context (named.outcomeAt context.wallSeconds input [])

variable {named : NamedModule} {rule : String}

theorem Asks.prepare_eq {path : List String} (asks : named.Asks rule path) (now : Int) :
    PreparedQuery.prepare now named rule =
      PreparedQuery.trial named rule (named.outcomeAt now Input.empty path) :=
  PreparedQuery.prepare_eq_trial (asks now Input.empty)

theorem Asks.eval_eq {path : List String} (asks : named.Asks rule path) {now : Int}
    {prepared : PreparedQuery} (succeeds : PreparedQuery.prepare now named rule = .ok prepared)
    (input : Input) (context : Context) :
    prepared.eval input context =
      PreparedQuery.answer named.name context
        (named.outcomeAt context.wallSeconds input path) := by
  rw [asks.prepare_eq] at succeeds
  rw [PreparedQuery.eq_ofRule_of_trial succeeds]
  exact PreparedQuery.eval_eq_answer (asks context.wallSeconds input)

theorem outcomeAt_of_module {module : Module} (linked : named.module = some module) {input : Input}
    {entered : Value} (enters : Value.enter? (.object input) = some entered) (now : Int)
    (path : List String) :
    named.outcomeAt now input path =
      module.document
        (fun rule => rule.eval (module.scope now module.rules.length ⟨entered, []⟩) [])
        (module.package ++ path) := by
  rw [outcomeAt, linked, enters]

theorem enter?_empty : Value.enter? (.object Input.empty) = some (.object []) := rfl

theorem bound_of_asks (orderly : ∀ module, named.module = some module → module.Orderly)
    (asks : ∀ rule, isPlainName rule = true → named.Asks rule [rule]) : named.Bound where
  prepares_iff := fun rule plain now => by
    rw [(asks rule plain).prepare_eq]
    exact PreparedQuery.exists_trial_eq_ok_iff _
  unknown_iff := fun rule plain now => by
    rw [(asks rule plain).prepare_eq, PreparedQuery.trial_eq_unknownRule_iff, and_iff_left rfl]
  faulty_iff := fun rule plain now => by
    rw [(asks rule plain).prepare_eq]
    exact PreparedQuery.exists_trial_eq_eval_iff _
  answers := fun rule plain _ _ succeeds input context =>
    (asks rule plain).eval_eq succeeds input context
  rule_value := fun module linked group listed rule ruled now input entered enters => by
    rw [outcomeAt_of_module linked enters]
    exact Module.document_named (orderly module linked) listed ruled
  lacking := fun module linked rule plain lacks now => by
    have nothing : named.outcomeAt now Input.empty [rule] = .undefined := by
      rw [outcomeAt_of_module linked enter?_empty]
      exact Module.document_absent (orderly module linked) (lacks module linked)
    rw [(asks rule plain).prepare_eq, nothing]
    rfl

theorem unbound_of_asks (orderly : ∀ module, named.module = some module → module.Orderly)
    (asks : ∀ rule, isPlainName rule = true → named.Asks rule []) : named.Unbound where
  prepares_iff := fun rule plain now => by
    rw [(asks rule plain).prepare_eq]
    exact PreparedQuery.exists_trial_eq_ok_iff _
  never_unknown := fun rule plain now query => by
    rw [(asks rule plain).prepare_eq]
    intro unknown
    obtain ⟨nothing, -⟩ := (PreparedQuery.trial_eq_unknownRule_iff _ query).mp unknown
    cases linked : named.module with
    | none =>
        rw [outcomeAt, linked] at nothing
        cases nothing
    | some module =>
        rw [outcomeAt_of_module linked enter?_empty] at nothing
        exact Module.document_package (orderly module linked) nothing
  answers := fun rule plain _ _ succeeds input context =>
    (asks rule plain).eval_eq succeeds input context

theorem Bound.not_prepared (bound : named.Bound) (plain : isPlainName rule = true)
    (lacks : named.Lacks rule) (now : Int) (prepared : PreparedQuery) :
    PreparedQuery.prepare now named rule ≠ .ok prepared := by
  intro succeeds
  cases linked : named.module with
  | none =>
      obtain ⟨value, found⟩ := (bound.prepares_iff rule plain now).mp ⟨prepared, succeeds⟩
      rw [outcomeAt, linked] at found
      cases found
  | some module =>
      rw [bound.lacking module linked rule plain lacks now] at succeeds
      cases succeeds

/-! ### Parsed modules -/

variable {name source : String} {read : Source}

theorem exists_of_parse (parsed : parse name source = .ok named) :
    ∃ read, packageOf? source = some named.package ∧ Source.parse? source = some read ∧
      named.module = read.link? := by
  unfold parse at parsed
  split at parsed
  · cases parsed
  · split at parsed
    · cases parsed
    · rename_i package packaged _ read understood
      cases parsed
      exact ⟨read, packaged, understood, rfl⟩

theorem orderly_of_parse? (understood : Source.parse? source = some read)
    (linked : named.module = read.link?) :
    ∀ module, named.module = some module → module.Orderly :=
  fun _ same => Module.orderly_of_parse? understood (linked ▸ same)

theorem package_of_link? (linked : named.module = read.link?) :
    ∀ module, named.module = some module → module.package = read.package :=
  fun _ same => (Source.paths_of_link? (linked ▸ same)).1

/-- The package is written as the engine has registered it, with points between its names. -/
structure WrittenAs (named : NamedModule) (registered : List String) : Prop where
  package : named.package = ".".intercalate registered
  plain : ∀ field ∈ registered, isPlainName field = true

/-- Where the package is written as the engine has registered it, the queries are bound. -/
theorem bound_of_writtenAs (understood : Source.parse? source = some read)
    (linked : named.module = read.link?) (written : named.WrittenAs read.package) :
    named.Bound := by
  refine bound_of_asks (orderly_of_parse? understood linked) fun rule plainRule => ?_
  have allPlain : ∀ field ∈ read.package ++ [rule], isPlainName field = true := by
    intro field member
    rcases List.mem_append.mp member with inPackage | isRule
    · exact written.plain field inPackage
    · exact List.mem_singleton.mp isRule ▸ plainRule
  have scanned := scan?_queryText (Source.package_ne_nil understood) written.package
    fun field member => isName_of_isPlainName (allPlain field member)
  exact queryRows_eq_rowsOf (package_of_link? linked) scanned
    fun field member => name?_of_isPlainName (allPlain field member)

theorem not_prepared_of_lacks (parsed : parse name source = .ok named)
    (understood : Source.parse? source = some read) (written : named.WrittenAs read.package)
    (lacks : named.Lacks rule) (plainRule : isPlainName rule = true) {other : String}
    {again : NamedModule} (parsedAgain : parse other source = .ok again) (now : Int)
    (prepared : PreparedQuery) : PreparedQuery.prepare now again rule ≠ .ok prepared := by
  obtain ⟨first, packaged, firstUnderstood, linked⟩ := exists_of_parse parsed
  obtain ⟨second, packagedAgain, secondUnderstood, linkedAgain⟩ := exists_of_parse parsedAgain
  have samePackage : again.package = named.package :=
    Option.some.inj (packagedAgain.symm.trans packaged)
  have sameFirst : first = read := Option.some.inj (firstUnderstood.symm.trans understood)
  have sameSecond : second = read := Option.some.inj (secondUnderstood.symm.trans understood)
  have sameModule : again.module = named.module := by rw [linkedAgain, linked, sameFirst, sameSecond]
  have bound : again.Bound := bound_of_writtenAs understood (sameSecond ▸ linkedAgain)
    ⟨samePackage.trans written.package, written.plain⟩
  have stillLacks : again.Lacks rule := fun module same => lacks module (sameModule ▸ same)
  exact bound.not_prepared plainRule stillLacks now prepared

end NamedModule

namespace Layout

variable {layout : Layout} {named : NamedModule} {read : Source} {body : List Char}

theorem unbound_of_comment (packaged : named.package = String.ofList layout.packageText)
    (understood : Source.parse? layout.source = some read) (linked : named.module = read.link?)
    (comment : layout.margin.comment = some body) : named.Unbound := by
  refine NamedModule.unbound_of_asks (NamedModule.orderly_of_parse? understood linked)
    fun rule plainRule => ?_
  have registered : ∀ module, named.module = some module → module.package = layout.path :=
    fun module same => (NamedModule.package_of_link? linked module same).trans
      (layout.package_of_parse? understood)
  have scanned := layout.scan?_queryText_of_comment packaged comment plainRule
  rw [← List.append_nil layout.path] at scanned
  refine NamedModule.queryRows_eq_rowsOf registered scanned ?_
  rw [List.append_nil]
  exact fun field member => name?_of_isPlainName (layout.plain field member)

/-- The package is written as it is registered exactly if no comment stands behind it. -/
theorem writtenAs_iff (packaged : named.package = String.ofList layout.packageText) :
    named.WrittenAs layout.path ↔ layout.margin.comment = none := by
  have dotted : ".".intercalate layout.path = String.ofList layout.dotted := by
    rw [path, Layout.dotted, ← toList_dotted, String.ofList_toList]
  constructor
  · intro written
    cases comment : layout.margin.comment with
    | none => rfl
    | some body =>
        have same : String.ofList layout.packageText = String.ofList layout.dotted := by
          rw [← packaged, written.package, dotted]
        rw [layout.packageText_of_comment comment, String.ofList_inj, List.append_right_eq_self,
          List.append_eq_nil_iff] at same
        cases same.2
  · intro uncommented
    refine ⟨?_, layout.plain⟩
    rw [packaged, layout.packageText_of_plain uncommented, dotted]

end Layout

/-! ### Engines -/

namespace Engine

theorem exists_of_ofSources {now : Int} {authentication authorization : Option String}
    {engine : Engine} (started : ofSources now authentication authorization = .ok engine) :
    ∃ judge decider, moduleOf Embedded.authentication authentication = .ok judge ∧
      moduleOf Embedded.authorization authorization = .ok decider ∧
        (∃ prepared, PreparedQuery.prepare now judge authenticationRule = .ok prepared) ∧
          ∀ rule : AccessRule,
            ∃ prepared, PreparedQuery.prepare now decider rule.policyRule = .ok prepared := by
  obtain ⟨judge, judgeFound, started⟩ := Rsa.bind_eq_ok started
  obtain ⟨decider, deciderFound, started⟩ := Rsa.bind_eq_ok started
  obtain ⟨query, queryPrepared, started⟩ := Rsa.bind_eq_ok started
  obtain ⟨any, anyPrepared, started⟩ := Rsa.bind_eq_ok started
  obtain ⟨adminOnly, adminOnlyPrepared, started⟩ := Rsa.bind_eq_ok started
  obtain ⟨userOnly, userOnlyPrepared, started⟩ := Rsa.bind_eq_ok started
  obtain ⟨adminOrSubject, adminOrSubjectPrepared, -⟩ := Rsa.bind_eq_ok started
  refine ⟨judge, decider, judgeFound, deciderFound, ⟨query, queryPrepared⟩, fun rule => ?_⟩
  cases rule with
  | any => exact ⟨any, anyPrepared⟩
  | adminOnly => exact ⟨adminOnly, adminOnlyPrepared⟩
  | userOnly => exact ⟨userOnly, userOnlyPrepared⟩
  | adminOrSubject => exact ⟨adminOrSubject, adminOrSubjectPrepared⟩

end Engine

/-- Every source that is parsed has its queries bound to the rules that they name, if its package
is written as it is registered; then no engine starts from it that lacks a rule. In a line of its
own the package is written so exactly if no comment stands behind it. With a comment, no rule is
ever unknown, and every query asks for the whole package. -/
theorem prepared_queries_bound {name source : String} {named : NamedModule}
    (parsed : NamedModule.parse name source = .ok named) :
    ∃ read, Source.parse? source = some read ∧ named.module = read.link? ∧
      (∀ module, named.module = some module → module.package = read.package ∧
        ∀ path, path ∈ module.rules.map RuleGroup.path ↔ path ∈ read.rules.map RuleText.path) ∧
      (named.WrittenAs read.package →
        named.Bound ∧
          (named.Lacks Engine.authenticationRule → ∀ now other engine,
            Engine.ofSources now (some source) other ≠ .ok engine) ∧
          ∀ rule : AccessRule, named.Lacks rule.policyRule → ∀ now other engine,
            Engine.ofSources now other (some source) ≠ .ok engine) ∧
      ∀ layout : Layout, layout.source = source →
        read.package = layout.path ∧
          (named.WrittenAs read.package ↔ layout.margin.comment = none) ∧
          (layout.margin.comment ≠ none → named.Unbound) := by
  obtain ⟨read, packaged, understood, linked⟩ := NamedModule.exists_of_parse parsed
  refine ⟨read, understood, linked, fun module same => ?_, fun written => ⟨?_, ?_, ?_⟩, ?_⟩
  · obtain ⟨package, -, paths⟩ := Source.paths_of_link? (linked.symm.trans same)
    exact ⟨package, paths⟩
  · exact NamedModule.bound_of_writtenAs understood linked written
  · intro lacks now other engine started
    obtain ⟨judge, -, parsedAgain, -, ⟨prepared, succeeds⟩, -⟩ := Engine.exists_of_ofSources started
    exact NamedModule.not_prepared_of_lacks parsed understood written lacks (by decide) parsedAgain
      now prepared succeeds
  · intro rule lacks now other engine started
    obtain ⟨-, decider, -, parsedAgain, -, allPrepared⟩ := Engine.exists_of_ofSources started
    obtain ⟨prepared, succeeds⟩ := allPrepared rule
    have plainRule : isPlainName rule.policyRule = true := by cases rule <;> decide
    exact NamedModule.not_prepared_of_lacks parsed understood written lacks plainRule parsedAgain
      now prepared succeeds
  · rintro layout rfl
    have same := layout.package_of_parse? understood
    have packageText : named.package = String.ofList layout.packageText :=
      Option.some.inj (packaged.symm.trans layout.packageOf?_source)
    refine ⟨same, same ▸ Layout.writtenAs_iff packageText, fun commented => ?_⟩
    obtain ⟨body, comment⟩ := Option.ne_none_iff_exists'.mp commented
    exact Layout.unbound_of_comment packageText understood linked comment

theorem inLine_of_all {body : List Char}
    (allInLine : (body.all fun char => char != '\n' && char.toNat != 0) = true) :
    Token.InLine body := by
  intro char member
  have inLine := List.all_eq_true.mp allInLine char member
  simpa only [Bool.and_eq_true, bne_iff_ne] using inLine

/-- A source of one rule. Its package has two names and may have a comment behind it. -/
def exampleLayout (commented : Bool) : Layout where
  above := [{
    blanks := []
    comment := some " access".toList
    allBlank := List.forall_mem_nil _
    inLine := fun body same => Option.some.inj same ▸ inLine_of_all (by decide)
    returns := false }]
  indent := ['\t']
  gap := []
  name := "demo"
  fields := ["rules"]
  margin :=
    { blanks := [' ']
      comment := if commented then some " rules".toList else none
      allBlank := List.forall_mem_singleton.mpr (.inl rfl)
      inLine := by
        intro body same
        cases commented with
        | false => cases same
        | true => exact Option.some.inj same ▸ inLine_of_all (by decide) }
  below := "\n\nallow := true\n".toList
  indented := List.forall_mem_singleton.mpr (.inr rfl)
  parted := List.forall_mem_nil _
  plain := by decide
  endsLine := .inr ⟨false, "\nallow := true\n".toList, rfl⟩

theorem exists_parse_exampleLayout (commented : Bool) :
    ∃ named, NamedModule.parse "demo" (exampleLayout commented).source = .ok named := by
  have understood : (Source.parse? (exampleLayout commented).source).isSome = true := by
    rw [Source.parse?, Layout.source, String.toList_ofList]
    cases commented with
    | false => decide +kernel
    | true => decide +kernel
  obtain ⟨read, parsed⟩ := Option.isSome_iff_exists.mp understood
  exact ⟨_, by rw [NamedModule.parse, Layout.packageOf?_source, parsed]⟩

/-- The comment behind the package is what parts the two sources. -/
theorem prepared_queries_bound_example :
    (∃ named, NamedModule.parse "demo" (exampleLayout false).source = .ok named ∧ named.Bound) ∧
      ∃ named, NamedModule.parse "demo" (exampleLayout true).source = .ok named ∧ named.Unbound := by
  constructor
  · obtain ⟨named, parsed⟩ := exists_parse_exampleLayout false
    obtain ⟨read, -, -, -, bound, layouts⟩ := prepared_queries_bound parsed
    obtain ⟨-, written, -⟩ := layouts (exampleLayout false) rfl
    exact ⟨named, parsed, (bound (written.mpr rfl)).1⟩
  · obtain ⟨named, parsed⟩ := exists_parse_exampleLayout true
    obtain ⟨read, -, -, -, -, layouts⟩ := prepared_queries_bound parsed
    obtain ⟨-, -, unbound⟩ := layouts (exampleLayout true) rfl
    exact ⟨named, parsed, unbound fun uncommented => by cases uncommented⟩

end Turnstile.Policy
