import Turnstile.Policy.Query
set_option autoImplicit false

/-! What the text of a query says. A query names what stands at a path from the root
of all packages; its tokens are read as that and as nothing else, however long the
path is. Which tokens a text has is left to the caller. -/

namespace Turnstile.Policy

/-- The tokens of the steps behind a name. -/
def fieldTokens (fields : List String) : List Token :=
  fields.flatMap fun field => [⟨.sign ".", true, false⟩, ⟨.word field, true, false⟩]

/-- The tokens of a query for what stands at a path. -/
def queryTokens (path : List String) : List Token :=
  [⟨.word resultBinding, false, false⟩, ⟨.sign "=", false, false⟩,
    ⟨.word "data", false, false⟩] ++ fieldTokens path

theorem fieldTokens_length (fields : List String) :
    (fieldTokens fields).length = 2 * fields.length := by
  induction fields with
  | nil => rfl
  | cons field rest ih =>
      simp only [fieldTokens, List.flatMap_cons, List.length_append, List.length_cons] at ih ⊢
      simp only [List.length_nil]
      omega

/-- Tokens at which every term and every operand ends. -/
structure EndsTerm (rest : List Token) : Prop where
  noStep : ∀ (budget : Nat) (base : Term),
    readSteps .plain (budget + 1) true base rest = some (base, rest)
  noOperator : ∀ level : Nat, readOperator .plain level rest = none
  noComma : readSign "," rest = none

private theorem endsTerm_nil : EndsTerm [] where
  noStep := fun _ _ => by simp only [readSteps]
  noOperator := fun _ => rfl
  noComma := rfl

private theorem endsTerm_equals (rest : List Token) :
    EndsTerm (⟨.sign "=", false, false⟩ :: rest) where
  noStep := fun _ _ => by simp [readSteps]
  noOperator := fun level => by simp [readOperator, Operator.ofSign?]
  noComma := rfl

theorem readSteps_fieldTokens {rest : List Token} (ends : EndsTerm rest)
    (budget : Nat) (name : String) (done fields : List String)
    (names : ∀ field ∈ fields, Dialect.plain.name? field = some field) :
    readSteps .plain (fields.length + budget + 1) true (.path name done)
        (fieldTokens fields ++ rest) =
      some (.path name (done ++ fields), rest) := by
  induction fields generalizing done with
  | nil =>
      rw [List.append_nil]
      exact ends.noStep _ _
  | cons field later ih =>
      have fieldName := names field (by simp)
      have laterNames : ∀ other ∈ later, Dialect.plain.name? other = some other :=
        fun other member => names other (by simp [member])
      have step := ih (done ++ [field]) laterNames
      have size : (field :: later).length + budget + 1 = (later.length + budget + 1) + 1 := by
        simp only [List.length_cons]
        omega
      have tokens : fieldTokens (field :: later) ++ rest =
          ⟨.sign ".", true, false⟩ :: ⟨.word field, true, false⟩ ::
            (fieldTokens later ++ rest) := by
        simp only [fieldTokens, List.flatMap_cons, List.cons_append, List.nil_append]
      rw [List.append_assoc, List.singleton_append] at step
      rw [size, tokens]
      simp only [readSteps, fieldName, fieldOf]
      exact step

theorem readLevel_of_reference {tokens rest : List Token} {term : Term} {budget : Nat}
    (read : readReference .plain budget tokens = some (term, rest)) (ends : EndsTerm rest)
    (gap : Nat) (small : gap ≤ referenceLevel) :
    readLevel .plain (budget + gap + 1) (referenceLevel - gap) tokens = some (term, rest) := by
  induction gap with
  | zero =>
      rw [readLevel]
      simp only [Nat.sub_zero, Nat.le_refl, if_true]
      exact read
  | succ gap ih =>
      have below : ¬ referenceLevel ≤ referenceLevel - (gap + 1) := by
        simp only [referenceLevel] at small ⊢
        omega
      have next : referenceLevel - (gap + 1) + 1 = referenceLevel - gap := by
        simp only [referenceLevel] at small ⊢
        omega
      have tighter := ih (by omega)
      rw [readLevel, if_neg below, next]
      rw [show budget + (gap + 1) = budget + gap + 1 from rfl, tighter]
      simp only
      rw [readOperands, ends.noOperator]

theorem readMembership_path {rest : List Token} (ends : EndsTerm rest) (budget : Nat)
    (word : String) (fields : List String) (joined begins : Bool)
    (notConstant : wordConstant? word = none) (notKeyword : Dialect.plain.isKeyword word = false)
    (notBlank : word ≠ "_")
    (names : ∀ field ∈ fields, Dialect.plain.name? field = some field) :
    readMembership .plain (fields.length + budget + 9)
        (⟨.word word, joined, begins⟩ :: (fieldTokens fields ++ rest)) =
      some (.path word fields, rest) := by
  have reference : readReference .plain (fields.length + budget + 2)
      (⟨.word word, joined, begins⟩ :: (fieldTokens fields ++ rest)) =
        some (.path word fields, rest) := by
    have steps := readSteps_fieldTokens ends budget word [] fields names
    rw [List.nil_append] at steps
    have base : nameOf word (fieldTokens fields ++ rest).length = word := if_neg notBlank
    rw [readReference]
    simp only [readSign, readPrimary, notConstant, notKeyword, Bool.false_and,
      Bool.false_eq_true, if_false, base, functionOf?, Option.isSome_some]
    exact steps
  have level := readLevel_of_reference reference ends 5 (by decide)
  rw [readMembership]
  rw [show comparisonLevel = referenceLevel - 5 from rfl, level]
  simp only [ends.noComma]
  rw [readOperands, ends.noOperator]

/-- The literal of a query for what stands at a path. -/
theorem queryOf?_of_scan {text : String} {path : List String}
    (scanned : Token.scan? text.toList = some (queryTokens path))
    (names : ∀ field ∈ path, Dialect.plain.name? field = some field) :
    Literal.queryOf? text =
      some [.unify (.path resultBinding []) (.path "data" path)] := by
  have size : (queryTokens path).length = 2 * path.length + 3 := by
    simp only [queryTokens, List.length_append, fieldTokens_length, List.length_cons,
      List.length_nil]
    omega
  obtain ⟨spare, budget⟩ : ∃ spare, budgetOf (queryTokens path) = path.length + spare + 9 + 3 :=
    ⟨16 * (2 * path.length + 3) + 16 - path.length - 12, by
      simp only [budgetOf, size]
      omega⟩
  have right := readMembership_path endsTerm_nil spare "data" path false false rfl (by decide)
    (by decide) names
  rw [List.append_nil] at right
  have left := readMembership_path (endsTerm_equals (⟨.word "data", false, false⟩ ::
    fieldTokens path)) (path.length + spare) resultBinding [] false false rfl (by decide)
    (by decide) (by simp)
  have condition : readCondition .plain (path.length + spare + 9 + 1) (queryTokens path) =
      some (.unify (.path resultBinding []) (.path "data" path), []) := by
    rw [readCondition]
    simp only [List.length_nil, Nat.zero_add, fieldTokens, List.flatMap_nil, List.nil_append]
      at left
    simp only [queryTokens, List.cons_append, List.nil_append, fieldTokens, left]
    simp only [fieldTokens] at right
    rw [right]
    rfl
  have literal : readLiteral .plain (path.length + spare + 9 + 2) (queryTokens path) =
      some (.unify (.path resultBinding []) (.path "data" path), []) := by
    have noChange : ∀ (budget : Nat) (literal : Literal),
        readChanges .plain (budget + 1) literal [] = some (literal, []) :=
      fun _ _ => by simp only [readChanges, readWord]
    have noEvery : ∀ tokens : List Token, readImported .plain "every" tokens = none :=
      fun _ => rfl
    simp only [readLiteral, noEvery]
    split
    · rename_i missing
      cases condition.symm.trans missing
    · rename_i literal rest found
      cases condition.symm.trans found
      exact noChange _ _
  have query : readQuery .plain (path.length + spare + 9 + 3) none (queryTokens path) =
      some ([.unify (.path resultBinding []) (.path "data" path)], []) := by
    rw [readQuery, literal]
    rfl
  simp only [Literal.queryOf?, scanned, readWholeQuery, budget, query, Option.bind_eq_bind,
    Option.bind_some, Option.pure_def]

theorem linkAlone?_query (path : List String) :
    Literal.linkAlone? [.unify (.path resultBinding []) (.path "data" path)] =
      some [.bind (.name resultBinding) (.document path)] := rfl

end Turnstile.Policy
